import Mathlib.Data.Finset.Dedup
import Mathlib.Data.Finset.Insert
import PipelineLint.Proofs.Answers

set_option autoImplicit false

namespace PipelineLint

theorem Entries.field_put (entries : Entries) (name other : String) (value : Value) :
    Entries.field? (entries.put (.str name) value) other =
      if other = name then some value else Entries.field? entries other := by
  have reads (held : Value) (rest : Entries) : Entries.field? ((.str name, held) :: rest) other =
      if other = name then some held else Entries.field? rest other := by
    simp only [Entries.field?, Entries.get?, List.find?_cons, Scalar.sameKey_str]
    by_cases same : other = name
    · simp [same]
    · simp [same, beq_false_of_ne (Ne.symm same)]
  induction entries with
  | nil => exact reads value []
  | cons entry rest ih =>
      obtain ⟨key, held⟩ := entry
      rw [Entries.put]
      split
      · rename_i same
        rw [(Scalar.sameKey_str_iff key name).mp same, reads, reads]
        split <;> rfl
      · rename_i differs
        simp only [Entries.field?, Entries.get?, List.find?_cons] at ih ⊢
        by_cases here : key.sameKey (.str other) = true
        · have apart : other ≠ name := fun same => differs (same ▸ here)
          simp [here, apart]
        · simpa [here] using ih

namespace Compatibility

structure Reordered (one other : Outline) : Prop where
  input : other.input = one.input
  output : other.output = one.output
  cacheLabels : other.cacheLabels = one.cacheLabels
  rateLimitLabels : other.rateLimitLabels = one.rateLimitLabels
  caches : Entries.hasField other.whole "cache_resources" = Entries.hasField one.whole "cache_resources"
  rateLimits : Entries.hasField other.whole "rate_limit_resources" = Entries.hasField one.whole "rate_limit_resources"
  processors : one.processors.Perm other.processors

def alone (part : Part) : Outline :=
  { whole := [], input := none, output := none, processors := [part], buffer := none, cacheLabels := [], rateLimitLabels := [] }

def Rule.IsOrderless (rule : Rule) : Prop :=
  ∀ one other, Reordered one other → rule.fires other = rule.fires one

def Rule.LooksFirst (rule : Rule) (type : String) : Prop :=
  ∀ outline, rule.fires outline = (outline.firstProcessor? type).any fun part => rule.fires (alone part)

-- A rule says the same of all processors of a type.
def Rule.Alike (rule : Rule) (type : String) (parts : List Part) : Prop :=
  ∀ one ∈ parts, ∀ other ∈ parts, one.type = type → other.type = type → rule.fires (alone one) = rule.fires (alone other)

def firstTypes : List (String × String) := [
  ("protobuf-without-schema", "protobuf"), ("http-without-retry", "http"), ("blocking-in-parallel", "parallel"),
  ("unbounded-parallel", "parallel"), ("large-workflow-dag", "workflow"), ("http-without-tls", "http"),
  ("sensitive-data-logging", "log"), ("nats-request-timeout", "nats_request_reply")
]

def orderRule : String := "catch-before-try"

section

variable {one other : Outline} (same : Reordered one other)

include same

theorem input_type_reordered : other.inputType = one.inputType := by
  rw [Outline.inputType, Outline.inputType, same.input]

theorem output_type_reordered : other.outputType = one.outputType := by
  rw [Outline.outputType, Outline.outputType, same.output]

theorem input_options_reordered : other.inputOptions = one.inputOptions := by
  rw [Outline.inputOptions, Outline.inputOptions, same.input]

theorem output_options_reordered : other.outputOptions = one.outputOptions := by
  rw [Outline.outputOptions, Outline.outputOptions, same.output]

theorem has_processor_reordered (type : String) : other.hasProcessor type = one.hasProcessor type :=
  same.processors.symm.any_eq

theorem batching_reordered : inputBatching? other = inputBatching? one := by
  simp only [inputBatching?, input_options_reordered same]

theorem sync_response_reordered : usesSyncResponse other = usesSyncResponse one := by
  simp only [usesSyncResponse, output_type_reordered same, has_processor_reordered same]

theorem mapping_texts_reordered : (mappingTexts one).Perm (mappingTexts other) :=
  (same.processors.filter _).map _

theorem missing_server_reordered : syncResponseWithoutServer other = syncResponseWithoutServer one := by
  simp only [syncResponseWithoutServer, input_type_reordered same, output_type_reordered same]

theorem missing_response_reordered : serverWithoutSyncResponse other = serverWithoutSyncResponse one := by
  simp only [serverWithoutSyncResponse, input_type_reordered same, sync_response_reordered same]

theorem batched_response_reordered : syncResponseWithBatching other = syncResponseWithBatching one := by
  simp only [syncResponseWithBatching, sync_response_reordered same, batching_reordered same]

theorem batched_singles_reordered : batchingIntoSingles other = batchingIntoSingles one := by
  simp only [batchingIntoSingles, batching_reordered same, same.output, output_type_reordered same]

theorem batch_mismatch_reordered : kafkaBatchMismatch other = kafkaBatchMismatch one := by
  simp only [kafkaBatchMismatch, input_type_reordered same, output_type_reordered same, input_options_reordered same,
    output_options_reordered same]

theorem large_batch_reordered : largeBatchSmallOutput other = largeBatchSmallOutput one := by
  simp only [largeBatchSmallOutput, batching_reordered same, output_type_reordered same]

theorem batch_window_reordered : batchWithoutWindow other = batchWithoutWindow one := by
  simp only [batchWithoutWindow, batching_reordered same]

theorem csv_parsed_reordered : csvParsedAsJson other = csvParsedAsJson one := by
  have reads : readsCsv other = readsCsv one := by
    simp only [readsCsv, input_type_reordered same, input_options_reordered same]
  simp only [csvParsedAsJson, reads, (mapping_texts_reordered same).any_eq]

theorem compressed_reordered : compressedIntoJson other = compressedIntoJson one := by
  simp only [compressedIntoJson, output_type_reordered same, has_processor_reordered same]

theorem avro_reordered : avroWithoutRegistry other = avroWithoutRegistry one := by
  simp only [avroWithoutRegistry, has_processor_reordered same]

theorem databases_reordered : manyDatabases other = manyDatabases one := by
  simp only [manyDatabases, databaseCount, input_type_reordered same, output_type_reordered same, same.processors.countP_eq]

theorem cache_resource_reordered : cacheWithoutResource other = cacheWithoutResource one := by
  simp only [cacheWithoutResource, has_processor_reordered same, same.cacheLabels, same.caches]

theorem rate_limit_resource_reordered : rateLimitWithoutResource other = rateLimitWithoutResource one := by
  simp only [rateLimitWithoutResource, has_processor_reordered same, same.rateLimitLabels, same.rateLimits]

theorem cache_keys_reordered : sharedCacheKeys other = sharedCacheKeys one := by
  have caches := same.processors.filter (·.type == "cache")
  simp only [sharedCacheKeys, caches.any_eq]

theorem missing_catch_reordered : tryWithoutCatch other = tryWithoutCatch one := by
  simp only [tryWithoutCatch, has_processor_reordered same]

theorem parsing_reordered : repeatedParsing other = repeatedParsing one := by
  have commutes : RightCommutative fun (count : Nat) (text : String) =>
      count + occurrences "parse_json()".toList text.toList := ⟨fun _ _ _ => Nat.add_right_comm _ _ _⟩
  simp only [repeatedParsing, (mapping_texts_reordered same).foldl_eq]

theorem parallel_changes_reordered : changesInParallel other = changesInParallel one := by
  simp only [changesInParallel, input_type_reordered same, has_processor_reordered same]

theorem appended_changes_reordered : changesIntoAppends other = changesIntoAppends one := by
  simp only [changesIntoAppends, input_type_reordered same, output_type_reordered same]

theorem missing_group_reordered : kafkaWithoutGroup other = kafkaWithoutGroup one := by
  simp only [kafkaWithoutGroup, input_type_reordered same, input_options_reordered same]

theorem missing_default_reordered : switchWithoutDefault other = switchWithoutDefault one := by
  simp only [switchWithoutDefault, output_type_reordered same, output_options_reordered same]

theorem fan_out_reordered : unbalancedFanOut other = unbalancedFanOut one := by
  simp only [unbalancedFanOut, output_type_reordered same, output_options_reordered same]

end

theorem first_processor_type (outline : Outline) (type : String) (part : Part)
    (found : outline.firstProcessor? type = some part) : (part.type == type) = true :=
  List.find?_some (p := fun part : Part => part.type == type) found

theorem first_alone (part : Part) (type : String) (named : (part.type == type) = true) :
    (alone part).firstProcessor? type = some part := by
  simp only [Outline.firstProcessor?, alone, List.find?_cons, named]

theorem looks_first (rule : Rule) (type : String) (test : Part → Bool)
    (first : ∀ outline, rule.fires outline = (outline.firstProcessor? type).any test) : rule.LooksFirst type := by
  intro outline
  rw [first outline]
  cases found : outline.firstProcessor? type with
  | none => rfl
  | some part =>
      have itself := first (alone part)
      rw [first_alone part type (first_processor_type outline type part found)] at itself
      exact itself.symm

theorem blocking_looks_first (id : String) (severity : Severity) (message suggestion : String) :
    Rule.LooksFirst ⟨id, severity, message, suggestion, blockingInParallel⟩ "parallel" := by
  intro outline
  cases found : outline.firstProcessor? "parallel" with
  | none => simp only [Rule.fires, blockingInParallel, found, nestedTypes, Except.map, List.any_nil, Option.any_none]
  | some part =>
      have itself := first_alone part "parallel" (first_processor_type outline "parallel" part found)
      simp only [Rule.fires, blockingInParallel, found, itself, Option.any_some]

-- A rule is blind to the order of processors, but for the first processor of a type if one is named for it.
def Rule.OrderedBy (rule : Rule) : Option String → Prop
  | none => rule.IsOrderless
  | some type => rule.LooksFirst type

theorem rules_ordered : ∀ rule ∈ rules, rule.id ≠ orderRule → rule.OrderedBy (firstTypes.lookup rule.id) := by
  have fan_out (one other : Outline) (same : Reordered one other) (id : String) (severity : Severity)
      (message suggestion : String) : Rule.fires ⟨id, severity, message, suggestion, unbalancedFanOut⟩ other =
        Rule.fires ⟨id, severity, message, suggestion, unbalancedFanOut⟩ one := by
    simp only [Rule.fires, fan_out_reordered same]
  unfold rules
  simp only [List.forall_mem_cons, List.not_mem_nil, false_implies, implies_true, and_true]
  exact ⟨
    fun _ _ _ => missing_server_reordered,
    fun _ _ _ => missing_response_reordered,
    fun _ _ _ => batched_response_reordered,
    fun _ _ _ => batched_singles_reordered,
    fun _ _ _ => batch_mismatch_reordered,
    fun _ _ _ => large_batch_reordered,
    fun _ _ _ => batch_window_reordered,
    fun _ _ _ => csv_parsed_reordered,
    fun _ _ _ => compressed_reordered,
    fun _ _ _ => avro_reordered,
    fun _ => looks_first _ "protobuf" _ fun _ => rfl,
    fun _ _ _ => databases_reordered,
    fun _ _ _ => cache_resource_reordered,
    fun _ _ _ => rate_limit_resource_reordered,
    fun _ _ _ => cache_keys_reordered,
    fun _ => looks_first _ "http" _ fun _ => rfl,
    fun _ _ _ => missing_catch_reordered,
    fun besides => absurd rfl besides,
    fun _ => blocking_looks_first _ _ _ _,
    fun _ => looks_first _ "parallel" _ fun _ => rfl,
    fun _ => looks_first _ "workflow" _ fun _ => rfl,
    fun _ _ _ => parsing_reordered,
    fun _ _ _ => parallel_changes_reordered,
    fun _ _ _ => appended_changes_reordered,
    fun _ => looks_first _ "http" _ fun _ => rfl,
    fun _ => looks_first _ "log" _ fun _ => rfl,
    fun _ _ _ => missing_group_reordered,
    fun _ => looks_first _ "nats_request_reply" _ fun _ => rfl,
    fun _ _ _ => missing_default_reordered,
    fun _ one other same => fan_out one other same _ _ _ _⟩

theorem first_part_alike (one other : List Part) (reordered : one.Perm other) (type : String) (test : Part → Bool)
    (alike : ∀ first ∈ one, ∀ second ∈ one, first.type = type → second.type = type → test first = test second) :
    (other.find? (·.type == type)).any test = (one.find? (·.type == type)).any test := by
  cases here : one.find? (·.type == type) with
  | none =>
      have nowhere : other.find? (·.type == type) = none := by
        rw [List.find?_eq_none] at here ⊢
        exact fun part member => here part (reordered.mem_iff.mpr member)
      rw [nowhere]
  | some part =>
      have member := List.mem_of_find?_eq_some here
      have named : part.type = type := by simpa using List.find?_some here
      cases there : other.find? (·.type == type) with
      | none => exact absurd (beq_iff_eq.mpr named) (List.find?_eq_none.mp there part (reordered.mem_iff.mp member))
      | some second =>
          have also := reordered.mem_iff.mpr (List.mem_of_find?_eq_some there)
          exact alike second also part member (by simpa using List.find?_some there) named

theorem rule_same_fires (rule : Rule) (listed : rule ∈ rules) (besides : rule.id ≠ orderRule) (one other : Outline)
    (same : Reordered one other)
    (alike : ∀ type, firstTypes.lookup rule.id = some type → rule.Alike type one.processors) :
    rule.fires other = rule.fires one := by
  have ordered := rules_ordered rule listed besides
  cases looked : firstTypes.lookup rule.id with
  | none =>
      rw [looked] at ordered
      exact ordered one other same
  | some type =>
      rw [looked] at ordered
      rw [ordered one, ordered other]
      exact first_part_alike one.processors other.processors same.processors type _ (alike type looked)

def withProcessors (document : Entries) (items : List Value) : Entries :=
  let pipeline := (Entries.fieldOrNull document "pipeline").entriesOrEmpty
  document.put (.str "pipeline") (.map (pipeline.put (.str "processors") (.list items)))

def firedRules (document : Entries) : Except KeyFault (Finset String) :=
  (reviewEntries document).map fun report => ((report.map Finding.rule).filter (· ≠ orderRule)).toFinset

theorem listed_processors (document pipeline : Entries) (items : List Value)
    (section_ : Entries.field? document "pipeline" = some (.map pipeline))
    (listed : Entries.field? pipeline "processors" = some (.list items)) : processorValues document = items := by
  simp only [processorValues, Entries.fieldOrNull, section_, Option.getD_some, listed, Value.items?]

theorem other_processors (document : Entries) (items : List Value) :
    processorValues (withProcessors document items) = items := by
  simp only [processorValues, withProcessors, Entries.fieldOrNull, Entries.field_put, if_true, Option.getD_some, Value.items?]

theorem other_sections (document : Entries) (items : List Value) (name : String) (apart : name ≠ "pipeline") :
    Entries.field? (withProcessors document items) name = Entries.field? document name := by
  rw [withProcessors, Entries.field_put, if_neg apart]

theorem outline_reordered (one other : Entries)
    (apart : ∀ name, name ≠ "pipeline" → Entries.field? other name = Entries.field? one name)
    (reordered : (processorValues one).Perm (processorValues other)) (outline : Outline)
    (outlined : Outline.of one = .ok outline) : ∃ second, Outline.of other = .ok second ∧ Reordered outline second := by
  obtain ⟨whole, listed, input, output, buffer, caches, rateLimits⟩ := (outline_iff one outline).mp outlined
  have held (name : String) (differs : name ≠ "pipeline") : Entries.fieldOrNull other name = Entries.fieldOrNull one name := by
    rw [Entries.fieldOrNull, Entries.fieldOrNull, apart name differs]
  obtain ⟨processors, also, same⟩ := mapM_reordered processorPart _ _ reordered outline.processors listed
  refine ⟨{ outline with whole := other, processors }, (outline_iff other _).mpr ⟨rfl, also, ?_, ?_, ?_, ?_, ?_⟩, ?_⟩
  · rwa [held "input" (by decide)]
  · rwa [held "output" (by decide)]
  · rwa [held "buffer" (by decide)]
  · rwa [held "cache_resources" (by decide)]
  · rwa [held "rate_limit_resources" (by decide)]
  · refine ⟨rfl, rfl, rfl, rfl, ?_, ?_, same⟩
    · rw [whole, Entries.hasField, Entries.hasField, apart _ (by decide)]
    · rw [whole, Entries.hasField, Entries.hasField, apart _ (by decide)]

theorem rule_ids_distinct : (rules.map Rule.id).Nodup := by
  decide +kernel

theorem fired_of (document : Entries) (outline : Outline) (outlined : Outline.of document = .ok outline) :
    firedRules document = .ok (((review outline).map Finding.rule).filter (· ≠ orderRule)).toFinset := by
  rw [firedRules, reviewEntries, outlined]
  rfl

theorem mem_fired (outline : Outline) (id : String) :
    id ∈ (((review outline).map Finding.rule).filter (· ≠ orderRule)).toFinset ↔
      ∃ rule ∈ rules, rule.id = id ∧ rule.id ≠ orderRule ∧ rule.fires outline = true := by
  simp only [List.mem_toFinset, List.mem_filter, decide_eq_true_eq, review, List.map_map, List.mem_map, Function.comp_apply]
  constructor
  · rintro ⟨⟨rule, ⟨listed, fires⟩, rfl⟩, besides⟩
    exact ⟨rule, listed, rfl, besides, fires⟩
  · rintro ⟨rule, listed, rfl, besides, fires⟩
    exact ⟨⟨rule, ⟨listed, fires⟩, rfl⟩, besides⟩

theorem fired_rule (outline : Outline) (rule : Rule) (listed : rule ∈ rules) (besides : rule.id ≠ orderRule) :
    rule.id ∈ (((review outline).map Finding.rule).filter (· ≠ orderRule)).toFinset ↔ rule.fires outline = true := by
  rw [mem_fired]
  refine ⟨?_, fun fires => ⟨rule, listed, rfl, besides, fires⟩⟩
  rintro ⟨other, also, same, -, fires⟩
  rwa [← List.inj_on_of_nodup_map rule_ids_distinct also listed same]

theorem fired_same_iff (one other : Entries) (first second : Outline) (first_of : Outline.of one = .ok first)
    (second_of : Outline.of other = .ok second) :
    firedRules other = firedRules one ↔ ∀ rule ∈ rules, rule.id ≠ orderRule → rule.fires second = rule.fires first := by
  rw [fired_of one first first_of, fired_of other second second_of, Except.ok.injEq]
  constructor
  · intro same rule listed besides
    rw [Bool.eq_iff_iff, ← fired_rule second rule listed besides, same, fired_rule first rule listed besides]
  · intro same
    ext id
    rw [mem_fired, mem_fired]
    refine exists_congr fun rule => and_congr_right fun listed => and_congr_right fun _ => and_congr_right fun besides => ?_
    rw [same rule listed besides]

theorem processor_first (document : Entries) (outline : Outline) (outlined : Outline.of document = .ok outline) (part : Part)
    (member : part ∈ outline.processors) :
    ∃ others second, (processorValues document).Perm others ∧ Outline.of (withProcessors document others) = .ok second ∧
      ∃ rest, second.processors = part :: rest := by
  obtain ⟨-, listed, -⟩ := (outline_iff document outline).mp outlined
  obtain ⟨value, stands, read⟩ := mapM_source processorPart _ _ listed part member
  obtain ⟨front, back, split⟩ := List.append_of_mem stands
  have reordered : (processorValues document).Perm (value :: (front ++ back)) := split ▸ List.perm_middle
  obtain ⟨second, also, -⟩ := outline_reordered document (withProcessors document (value :: (front ++ back)))
    (other_sections document _) (by rwa [other_processors]) outline outlined
  obtain ⟨-, parts, -⟩ := (outline_iff _ second).mp also
  rw [other_processors, List.mapM_cons, read] at parts
  obtain ⟨rest, -, same⟩ := bound_ok ((front ++ back).mapM processorPart) (fun rest => .ok (part :: rest)) _ parts
  exact ⟨_, second, reordered, also, rest, (Except.ok.inj same).symm⟩

-- If the same rules fire in every order, a rule fires on a pipeline as it fires on each processor of the type that it looks for:
-- this may be the first one.
theorem fires_alone (document : Entries) (outline : Outline) (outlined : Outline.of document = .ok outline)
    (same : ∀ others, (processorValues document).Perm others → firedRules (withProcessors document others) = firedRules document)
    (rule : Rule) (listed : rule ∈ rules) (besides : rule.id ≠ orderRule) (type : String) (first : rule.LooksFirst type)
    (part : Part) (stands : part ∈ outline.processors) (named : part.type = type) :
    rule.fires (alone part) = rule.fires outline := by
  obtain ⟨others, second, reordered, also, rest, front⟩ := processor_first document outline outlined part stands
  have fired := (fired_same_iff document _ outline second outlined also).mp (same others reordered)
  rw [← fired rule listed besides, first second, Outline.firstProcessor?, front, List.find?_cons, beq_iff_eq.mpr named,
    Option.any_some]

theorem alike_fired (document : Entries) (others : List Value) (reordered : (processorValues document).Perm others)
    (alike : ∀ outline, Outline.of document = .ok outline → ∀ rule ∈ rules, ∀ type, firstTypes.lookup rule.id = some type →
      rule.Alike type outline.processors) : firedRules (withProcessors document others) = firedRules document := by
  have apart := other_sections document others
  have reordered : (processorValues document).Perm (processorValues (withProcessors document others)) := by
    rwa [other_processors]
  cases found : Outline.of document with
  | ok outline =>
      obtain ⟨second, also, kept⟩ := outline_reordered document _ apart reordered outline found
      refine (fired_same_iff document _ outline second found also).mpr fun rule member besides => ?_
      exact rule_same_fires rule member besides outline second kept (alike outline found rule member)
  | error fault =>
      -- a component without a readable type has none in any order
      cases other_found : Outline.of (withProcessors document others) with
      | error other =>
          cases fault
          cases other
          rw [firedRules, firedRules, reviewEntries, reviewEntries, found, other_found]
      | ok second =>
          obtain ⟨outline, also, -⟩ := outline_reordered _ document (fun name differs => (apart name differs).symm)
            reordered.symm second other_found
          rw [also] at found
          cases found

-- In all orders of the processors the same rules fire, exactly if what a rule says of the first processor of a type it says of
-- all processors of this type.
theorem processor_order_irrelevant_iff (document pipeline : Entries) (items : List Value)
    (section_ : Entries.field? document "pipeline" = some (.map pipeline))
    (listed : Entries.field? pipeline "processors" = some (.list items)) :
    (∀ rule ∈ rules, rule.id ≠ orderRule → firstTypes.lookup rule.id = none → rule.IsOrderless) ∧
    ((∀ others, items.Perm others → firedRules (withProcessors document others) = firedRules document) ↔
      ∀ outline, Outline.of document = .ok outline → ∀ rule ∈ rules, ∀ type, firstTypes.lookup rule.id = some type →
        rule.Alike type outline.processors) := by
  obtain rfl := listed_processors document pipeline items section_ listed
  refine ⟨fun rule member besides unlisted => ?_, fun same outline outlined rule member type looked => ?_,
    fun alike others reordered => alike_fired document others reordered alike⟩
  · have ordered := rules_ordered rule member besides
    rwa [unlisted] at ordered
  · have besides : rule.id ≠ orderRule := by
      intro order
      rw [order] at looked
      cases looked
    have first := rules_ordered rule member besides
    rw [looked] at first
    have own := fires_alone document outline outlined same rule member besides type first
    intro one one_stands other other_stands one_named other_named
    rw [own one one_stands one_named, own other other_stands other_named]

def requestParts (urls : List String) : List Part :=
  urls.map fun url => ⟨"http", .map [(.str "url", .str url), (.str "retries", .int 3)]⟩

def requestValues (urls : List String) : List Value :=
  (requestParts urls).map fun part => .map [(.str part.type, part.value)]

def requestPipeline (urls : List String) : Entries := [(.str "processors", .list (requestValues urls))]

def requests (urls : List String) : Entries := [
  (.str "input", .map [(.str "stdin", .map [])]), (.str "pipeline", .map (requestPipeline urls)),
  (.str "output", .map [(.str "stdout", .map [])])]

def openRequests : List String := ["http://a.example.com", "http://b.example.com"]

theorem processor_order_irrelevant_iff_requests :
    firedRules (requests openRequests) = .ok {"http-without-tls"} ∧
      ∀ others, (requestValues openRequests).Perm others →
        firedRules (withProcessors (requests openRequests) others) = firedRules (requests openRequests) := by
  have alike : ∀ one ∈ requestParts openRequests, ∀ other ∈ requestParts openRequests, ∀ rule ∈ rules,
      rule.fires (alone one) = rule.fires (alone other) := by
    decide +kernel
  refine ⟨rfl, (processor_order_irrelevant_iff (requests openRequests) (requestPipeline openRequests)
    (requestValues openRequests) rfl rfl).2.mpr fun outline outlined rule listed type _ one here other there _ _ => ?_⟩
  have parts : outline.processors = requestParts openRequests := by
    obtain ⟨-, read, -⟩ := (outline_iff _ outline).mp outlined
    exact (Except.ok.inj read).symm
  rw [parts] at here there
  exact alike one here other there rule listed

-- A request over TLS in front of one without it keeps the rule about the latter silent.
theorem request_order_matters :
    (requestValues ["https://a.example.com", "http://b.example.com"]).Perm
        (requestValues ["http://b.example.com", "https://a.example.com"]) ∧
      firedRules (requests ["https://a.example.com", "http://b.example.com"]) = .ok ∅ ∧
      firedRules (withProcessors (requests ["https://a.example.com", "http://b.example.com"])
        (requestValues ["http://b.example.com", "https://a.example.com"])) = .ok {"http-without-tls"} :=
  ⟨.swap _ _ _, rfl, rfl⟩

end Compatibility

end PipelineLint
