import Mathlib.Data.Finset.Card
import Mathlib.Data.Finset.Dedup
import PipelineLint.Settings.Session

set_option autoImplicit false

namespace PipelineLint

namespace Settings

namespace Held

theorem lookup_dropped (held : Held) (key other : Files.Path) (differs : other ≠ key) :
    (held.filter fun entry => entry.1 != key).lookup other = held.lookup other := by
  induction held with
  | nil => rfl
  | cons entry rest ih =>
      by_cases same : entry.1 = key
      · have passed : (other == entry.1) = false := beq_false_of_ne (same ▸ differs)
        rw [List.filter_cons_of_neg (by simp [same]), ih, List.lookup_cons, passed]
      · rw [List.filter_cons_of_pos (p := fun entry : Files.Path × Settings => entry.1 != key) (bne_iff_ne.mpr same),
          List.lookup_cons, List.lookup_cons, ih]

theorem get?_use_other (held : Held) (key other : Files.Path) (settings : Settings) (differs : other ≠ key)
    (room : (held.filter fun entry => entry.1 != key).length < mostHeld) :
    (held.use key settings).get? other = held.get? other := by
  have whole : ((key, settings) :: held.filter fun entry => entry.1 != key).length ≤ mostHeld := room
  unfold use get?
  rw [List.take_of_length_le whole, List.lookup_cons, beq_false_of_ne differs]
  exact lookup_dropped held key other differs

theorem mem_use (held : Held) (key : Files.Path) (settings : Settings) (entry : Files.Path × Settings)
    (member : entry ∈ held.use key settings) : entry = (key, settings) ∨ entry ∈ held := by
  rcases List.mem_cons.mp (List.mem_of_mem_take member) with here | older
  · exact .inl here
  · exact .inr (List.mem_filter.mp older).1

theorem front_apart (held : Held) (key : Files.Path) (settings : Settings) (apart : (held.map Prod.fst).Nodup) :
    (((key, settings) :: held.filter fun entry => entry.1 != key).map Prod.fst).Nodup := by
  refine List.nodup_cons.mpr ⟨?_, apart.sublist (List.filter_sublist.map _)⟩
  intro member
  obtain ⟨entry, kept, same⟩ := List.mem_map.mp member
  exact bne_iff_ne.mp (List.mem_filter.mp kept).2 same

theorem use_apart (held : Held) (key : Files.Path) (settings : Settings) (apart : (held.map Prod.fst).Nodup) :
    ((held.use key settings).map Prod.fst).Nodup :=
  (held.front_apart key settings apart).sublist ((List.take_sublist _ _).map _)

theorem get?_mem (held : Held) (key : Files.Path) (settings : Settings) (found : held.get? key = some settings) :
    (key, settings) ∈ held := by
  obtain ⟨before, rest, cut, -⟩ := List.lookup_eq_some_iff.mp found
  exact cut ▸ List.mem_append_right _ (.head _)

end Held

namespace Session

theorem outcome_bind {α β : Type} (reading : Reading α) (next : α → Reading β) :
    (reading >>= next).outcome =
      match reading.outcome with
      | (.ok value, notices) => (ExceptT.run (next value)).run notices
      | (.error fault, notices) => (.error fault, notices) := by
  unfold Reading.outcome
  simp only [ExceptT.run_bind, StateT.run_bind]
  cases (ExceptT.run reading).run [] with
  | mk outcome notices => cases outcome <;> rfl

def heldWith (hold : Settings → Held) (outcome : Except Fault Settings × List Notice) :
    Except Fault (Settings × Held) × List Notice :=
  (outcome.1.map fun settings => (settings, hold settings), outcome.2)

theorem load_outcome (session : Session) (path : Option String) :
    (session.load path).outcome =
      match (session.world.locate path).outcome with
      | (.ok (some found), notices) =>
          match session.held.get? found.key with
          | some settings => (.ok (settings, session.held.use found.key settings), notices)
          | none => heldWith (session.held.use found.key) (session.world.load path).outcome
      | _ => heldWith (fun _ => session.held) (session.world.load path).outcome := by
  unfold load World.load
  rw [outcome_bind, outcome_bind]
  cases (session.world.locate path).outcome with
  | mk located notices =>
      match located with
      | .error fault => rfl
      | .ok none =>
          simp only [ExceptT.run_bind, StateT.run_bind]
          cases (ExceptT.run (byDefault session.world.env)).run notices with
          | mk outcome seen => cases outcome <;> rfl
      | .ok (some found) =>
          simp only [readHeld]
          cases session.held.get? found.key with
          | some settings => rfl
          | none =>
              simp only [ExceptT.run_bind, StateT.run_bind]
              cases (ExceptT.run (session.world.read found)).run notices with
              | mk outcome seen => cases outcome <;> rfl

theorem run_held_with (session : Session) (path : Option String) (hold : Settings → Held)
    (outcome : Except Fault Settings × List Notice) (loaded : (session.load path).outcome = heldWith hold outcome) :
    (session.run (.load path)).2 = ⟨some outcome.1, outcome.2⟩ ∧
      (session.run (.load path)).1.held = match outcome.1 with
        | .ok settings => hold settings
        | .error _ => session.held := by
  obtain ⟨result, notices⟩ := outcome
  cases result <;> simp [run, loaded, heldWith, Except.map]

def given? (session : Session) (step : Step) : Option (Files.Path × Settings) :=
  match step with
  | .load path =>
      match (session.world.locate path).outcome.1, (session.run (.load path)).2.settings with
      | .ok (some found), some (.ok settings) => some (found.key, settings)
      | _, _ => none
  | _ => none

theorem load_cases (session : Session) (path : Option String) :
    ((session.run (.load path)).1.held = session.held ∧ session.given? (.load path) = none) ∨
      ∃ key settings, session.given? (.load path) = some (key, settings) ∧
        (session.run (.load path)).1.held = session.held.use key settings ∧
        ∀ kept, session.held.get? key = some kept → kept = settings := by
  have loaded := session.load_outcome path
  generalize located : (session.world.locate path).outcome = place at loaded
  generalize (session.world.load path).outcome = outcome at loaded
  obtain ⟨found, notices⟩ := place
  have elsewhere (nothing : ∀ here, found ≠ .ok (some here))
      (anew : (session.load path).outcome = heldWith (fun _ => session.held) outcome) :
      (session.run (.load path)).1.held = session.held ∧ session.given? (.load path) = none := by
    refine ⟨?_, ?_⟩
    · rw [(run_held_with session path _ outcome anew).2]
      cases outcome.1 <;> rfl
    · simp only [given?, located]
      split
      · exact absurd rfl (nothing _)
      · rfl
  match found with
  | .error fault => exact .inl (elsewhere (fun _ same => nomatch same) loaded)
  | .ok none => exact .inl (elsewhere (fun _ same => nomatch same) loaded)
  | .ok (some found) =>
      simp only at loaded
      cases kept : session.held.get? found.key with
      | some settings =>
          rw [kept] at loaded
          refine .inr ⟨found.key, settings, ?_, ?_, fun other same => Option.some.inj (same.symm.trans kept)⟩
          · simp only [given?, run, located, loaded]
          · simp only [run, loaded]
      | none =>
          rw [kept] at loaded
          obtain ⟨result, held⟩ := run_held_with session path _ outcome loaded
          obtain ⟨given, seen⟩ := outcome
          cases given with
          | error fault => exact .inl ⟨held, by simp only [given?, located, result]⟩
          | ok settings =>
              exact .inr ⟨found.key, settings, by simp only [given?, located, result], held, fun other same => nomatch kept.symm.trans same⟩

theorem load_held (session : Session) (path : Option String) (found : Found) (notices : List Notice) (settings : Settings)
    (located : (session.world.locate path).outcome = (.ok (some found), notices))
    (kept : session.held.get? found.key = some settings) :
    (session.run (.load path)).2 = ⟨some (.ok settings), notices⟩ := by
  have loaded := session.load_outcome path
  simp only [located, kept] at loaded
  simp only [run, loaded]

theorem load_anew (session : Session) (path : Option String)
    (unheld : ∀ found notices, (session.world.locate path).outcome = (.ok (some found), notices) →
      session.held.get? found.key = none) :
    (session.run (.load path)).2 = ⟨some (session.world.load path).outcome.1, (session.world.load path).outcome.2⟩ := by
  have loaded := session.load_outcome path
  split at loaded
  · rename_i found notices located
    rw [unheld found notices located] at loaded
    exact (run_held_with session path _ _ loaded).1
  · exact (run_held_with session path _ _ loaded).1

theorem load_fails (session : Session) (path : Option String) (fault : Fault) (notices : List Notice)
    (fails : (session.run (.load path)).2 = ⟨some (.error fault), notices⟩) : (session.run (.load path)).1 = session := by
  simp only [run] at fails ⊢
  cases outcome : (session.load path).outcome with
  | mk result seen =>
      rw [outcome] at fails
      cases result with
      | error fault => rfl
      | ok loaded => cases fails

theorem write_world (session : Session) (path text : String) : (session.run (.write path text)).1.world =
    { session.world with tree := session.world.tree.write (placeOf path) (Text.Utf8.encode text.toList) } := rfl

theorem load_world (session : Session) (path : Option String) : (session.run (.load path)).1.world = session.world := by
  simp only [run]
  cases (session.load path).outcome with
  | mk result seen => cases result <;> rfl

def after (session : Session) : List Step → Session
  | [] => session
  | step :: rest => (session.run step).1.after rest

theorem runAll_append (session : Session) (before rest : List Step) :
    session.runAll (before ++ rest) = session.runAll before ++ (session.after before).runAll rest := by
  induction before generalizing session with
  | nil => rfl
  | cons step before ih =>
      simp only [List.cons_append, runAll, after, ih]

theorem length_runAll (session : Session) (steps : List Step) : (session.runAll steps).length = steps.length := by
  induction steps generalizing session with
  | nil => rfl
  | cons step rest ih => simp only [runAll, List.length_cons, ih]

def note (session : Session) (loads : List (Files.Path × Settings)) (step : Step) : List (Files.Path × Settings) :=
  match step with
  | .forget => []
  | step => (session.given? step).toList ++ loads

-- The files that steps load after they last forget, each with the settings that the load gave; loads that fail are none.
def loadsSince (session : Session) (loads : List (Files.Path × Settings)) : List Step → List (Files.Path × Settings)
  | [] => loads
  | step :: rest => (session.run step).1.loadsSince (session.note loads step) rest

-- Up to each time of forgetting, no more paths are loaded than can be held.
def FewPaths (session : Session) (loads : List (Files.Path × Settings)) (steps : List Step) : Prop :=
  ∀ before, before <+: steps → ((session.loadsSince loads before).map Prod.fst).toFinset.card ≤ mostHeld

/-- What is held is what the loads gave. -/
structure Coherent (held : Held) (loads : List (Files.Path × Settings)) : Prop where
  apart : (held.map Prod.fst).Nodup
  noted : ∀ entry ∈ held, entry ∈ loads
  given : ∀ key settings, (key, settings) ∈ loads → held.get? key = some settings

theorem nothing_coherent : Coherent [] [] :=
  ⟨List.nodup_nil, fun _ member => (nomatch member), fun _ _ member => (nomatch member)⟩

namespace Coherent

variable {held : Held} {loads : List (Files.Path × Settings)} (coherent : Coherent held loads)

include coherent

theorem absent (key : Files.Path) (unloaded : key ∉ loads.map Prod.fst) : held.get? key = none := by
  cases kept : held.get? key with
  | none => rfl
  | some settings => exact absurd (List.mem_map_of_mem (coherent.noted _ (held.get?_mem key settings kept))) unloaded

-- What is held has other paths each, all of them loaded, so there is room for the next.
theorem room (key : Files.Path) (settings : Settings)
    (few : (((key, settings) :: loads).map Prod.fst).toFinset.card ≤ mostHeld) :
    (held.filter fun entry => entry.1 != key).length < mostHeld := by
  have within : (((key, settings) :: held.filter fun entry => entry.1 != key).map Prod.fst).toFinset ⊆
      (((key, settings) :: loads).map Prod.fst).toFinset := by
    intro path inside
    obtain ⟨entry, listed, rfl⟩ := List.mem_map.mp (List.mem_toFinset.mp inside)
    refine List.mem_toFinset.mpr (List.mem_map_of_mem ?_)
    rcases List.mem_cons.mp listed with here | kept
    · exact here ▸ .head _
    · exact .tail _ (coherent.noted entry (List.mem_filter.mp kept).1)
  have bound := (Finset.card_le_card within).trans few
  rw [List.toFinset_card_of_nodup (held.front_apart key settings coherent.apart), List.length_map] at bound
  exact bound

theorem use (key : Files.Path) (settings : Settings) (same : ∀ kept, held.get? key = some kept → kept = settings)
    (few : (((key, settings) :: loads).map Prod.fst).toFinset.card ≤ mostHeld) :
    Coherent (held.use key settings) ((key, settings) :: loads) where
  apart := held.use_apart key settings coherent.apart
  noted := fun entry member => by
    rcases held.mem_use key settings entry member with here | older
    · exact here ▸ .head _
    · exact .tail _ (coherent.noted entry older)
  given := fun other found member => by
    have one : other = key → found = settings := by
      intro here
      rcases List.mem_cons.mp member with first | older
      · exact congrArg Prod.snd first
      · exact same found (here ▸ coherent.given other found older)
    by_cases here : other = key
    · rw [here, one here]
      exact held.get?_use key settings
    · have older : (other, found) ∈ loads :=
        (List.mem_cons.mp member).resolve_left fun first => here (congrArg Prod.fst first)
      rw [held.get?_use_other key other settings here (coherent.room key settings few)]
      exact coherent.given other found older

end Coherent

theorem step_coherent (session : Session) (loads : List (Files.Path × Settings)) (step : Step)
    (coherent : Coherent session.held loads)
    (few : ((session.note loads step).map Prod.fst).toFinset.card ≤ mostHeld) :
    Coherent (session.run step).1.held (session.note loads step) := by
  cases step with
  | load path =>
      rcases session.load_cases path with ⟨held, given⟩ | ⟨key, settings, given, held, same⟩
      · rw [held]
        simpa only [note, given, Option.toList_none, List.nil_append] using coherent
      · simp only [note, given, Option.toList_some, List.singleton_append] at few ⊢
        rw [held]
        exact coherent.use key settings same few
  | forget => exact nothing_coherent
  | write | delete | enter | setVariable | unsetVariable | loadDefault => exact coherent

theorem after_coherent (session : Session) (loads : List (Files.Path × Settings)) (steps : List Step)
    (coherent : Coherent session.held loads) (few : session.FewPaths loads steps) :
    Coherent (session.after steps).held (session.loadsSince loads steps) := by
  induction steps generalizing session loads with
  | nil => exact coherent
  | cons step rest ih =>
      refine ih _ _ (session.step_coherent loads step coherent ?_) ?_
      · exact few [step] (List.prefix_append _ _)
      · exact fun before inside => few (step :: before) (List.cons_prefix_cons.mpr ⟨rfl, inside⟩)

theorem few_paths_prefix (session : Session) (loads : List (Files.Path × Settings)) (before rest : List Step)
    (few : session.FewPaths loads (before ++ rest)) : session.FewPaths loads before :=
  fun first inside => few first (inside.trans (List.prefix_append _ _))

theorem length_loads (session : Session) (loads : List (Files.Path × Settings)) (steps : List Step) :
    (session.loadsSince loads steps).length ≤ loads.length + steps.length := by
  induction steps generalizing session loads with
  | nil => exact Nat.le_refl _
  | cons step rest ih =>
      have one : (session.note loads step).length ≤ loads.length + 1 := by
        cases step with
        | forget => exact Nat.zero_le _
        | write | delete | enter | setVariable | unsetVariable | loadDefault => exact Nat.le_succ _
        | load path =>
            simp only [note, List.length_append]
            have most := Option.length_toList_le (o := session.given? (.load path))
            omega
      exact (ih _ _).trans (by simp only [List.length_cons]; omega)

theorem few_paths_short (session : Session) (steps : List Step) (short : steps.length ≤ mostHeld) :
    session.FewPaths [] steps := by
  intro before inside
  have bound := (session.length_loads [] before).trans (Nat.add_le_add_left inside.length_le 0)
  exact (List.toFinset_card_le _).trans (by simpa using bound.trans (by simpa using short))

/-- In a session that starts with nothing held and in which no more paths are loaded between two times of forgetting
than can be held, a load of a file gives the settings that a load of the same path gave since the last time of
forgetting; every other load gives what the world says now; and a load that fails leaves the results of all steps after
it as they are without it. -/
theorem loads_coherent (start : Session) (fresh : start.held = []) (before rest : List Step) (path : Option String)
    (few : start.FewPaths [] (before ++ .load path :: rest)) :
    (∀ found notices settings, ((start.after before).world.locate path).outcome = (.ok (some found), notices) →
        (found.key, settings) ∈ start.loadsSince [] before →
        (start.runAll (before ++ .load path :: rest))[before.length]? = some ⟨some (.ok settings), notices⟩) ∧
      ((∀ found notices, ((start.after before).world.locate path).outcome = (.ok (some found), notices) →
          found.key ∉ (start.loadsSince [] before).map Prod.fst) →
        (start.runAll (before ++ .load path :: rest))[before.length]? =
          some ⟨some ((start.after before).world.load path).outcome.1, ((start.after before).world.load path).outcome.2⟩) ∧
      ∀ fault notices, (start.runAll (before ++ .load path :: rest))[before.length]? = some ⟨some (.error fault), notices⟩ →
        (start.runAll (before ++ .load path :: rest)).drop (before.length + 1) =
          (start.runAll (before ++ rest)).drop before.length := by
  have coherent : Coherent (start.after before).held (start.loadsSince [] before) := by
    refine start.after_coherent [] before ?_ (start.few_paths_prefix [] before _ few)
    exact fresh ▸ nothing_coherent
  have place : (start.runAll (before ++ .load path :: rest))[before.length]? =
      some ((start.after before).run (.load path)).2 := by
    rw [runAll_append, ← start.length_runAll before, List.getElem?_append_right (Nat.le_refl _), Nat.sub_self]
    rfl
  refine ⟨?_, ?_, ?_⟩
  · intro found notices settings located member
    have read := load_held _ path found notices settings located (coherent.given _ _ member)
    exact place.trans (congrArg some read)
  · intro apart
    have anew := load_anew _ path fun found notices located => coherent.absent found.key (apart found notices located)
    exact place.trans (congrArg some anew)
  · intro fault notices fails
    have unchanged := load_fails _ path fault notices (Option.some.inj (place.symm.trans fails))
    rw [runAll_append, runAll_append, ← start.length_runAll before, List.drop_length_add_append, List.drop_left]
    simp only [runAll, unchanged, List.drop_succ_cons, List.drop_zero]

def overwritten : List Step := [.write "a.toml" "", .load (some "a.toml"), .write "a.toml" "["]

theorem loads_coherent_overwritten : ∃ settings,
    (({} : Session).runAll (overwritten ++ [.load (some "a.toml")]))[3]? = some ⟨some (.ok settings), []⟩ ∧
      ((({} : Session).after overwritten).world.load (some "a.toml")).outcome.1.isOk = false := by
  have loads : (({} : Session).loadsSince [] overwritten).map Prod.fst = [⟨"/", ["a.toml"]⟩] := by decide +kernel
  obtain ⟨⟨key, settings⟩, loaded, rfl⟩ := List.mem_map.mp (loads ▸ List.mem_singleton_self (⟨"/", ["a.toml"]⟩ : Files.Path))
  have coherent := loads_coherent {} rfl overwritten [] (some "a.toml") (few_paths_short _ _ (by decide))
  have located : ∃ bytes, ((({} : Session).after overwritten).world.locate (some "a.toml")).outcome =
      (.ok (some ⟨⟨"/", ["a.toml"]⟩, "a.toml", .file bytes⟩), []) := by
    simp only [overwritten, after, write_world, load_world]
    exact ⟨_, rfl⟩
  obtain ⟨bytes, located⟩ := located
  exact ⟨settings, coherent.1 _ [] settings located loaded, by decide +kernel⟩

end Session

end Settings

end PipelineLint
