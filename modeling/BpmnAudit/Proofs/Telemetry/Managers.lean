import BpmnAudit.Proofs.Telemetry.Points

/-!
# The manager of a host

A host has one manager at a time, for everything that runs in it. Whatever it was asked to do, it
has the manager that the first successful start since the last reset built, and none if there was
no such start (`Career.current_of_firstSuccess`). While it has a manager, a start answers with this
one and changes nothing, whatever its settings; a start at a level that is not known leaves a host
without a manager as it was.

Managers are told apart by the steps that built them, so that one which looks like another one is
still another one.
-/

namespace BpmnAudit

namespace HostSettings

/-- The settings name a level that is known. -/
def NamesLevel (settings : HostSettings) : Prop :=
  (lineLevels.lookup settings.logLevel).isSome

instance (settings : HostSettings) : Decidable settings.NamesLevel :=
  inferInstanceAs (Decidable ((lineLevels.lookup settings.logLevel).isSome = true))

end HostSettings

/-- A manager works under the settings with which it was started, at their level. -/
structure Manager.WorksUnder (manager : Manager) (settings : HostSettings) : Prop where
  given : manager.settings = settings
  threshold : lineLevels.lookup settings.logLevel = some manager.threshold

theorem Manager.WorksUnder.take {manager : Manager} {settings : HostSettings}
    (h : manager.WorksUnder settings) (emission : Emission) :
    (manager.take emission).WorksUnder settings := by
  have measured : ∀ name amount attributes,
      (manager.measure name amount attributes).WorksUnder settings := by
    intro name amount attributes
    unfold Manager.measure
    split
    · exact h
    · dsimp only
      split
      · exact h
      · split <;> exact ⟨h.given, h.threshold⟩
  cases emission with
  | record record => exact h
  | elapsed name => exact measured (durationName name) (.number (.real 0)) []
  | measured name amount attributes =>
    unfold Manager.take
    dsimp only
    split
    · exact h
    · exact measured name amount attributes

/-! ## Starts -/

namespace Host

variable {host : Host} {settings : HostSettings}

theorem start_of_manager {manager : Manager} (h : host.manager = some manager) :
    host.start settings = (some true, host) := by
  unfold start
  rw [h]

theorem start_of_unknown (h : host.manager = none) (unknown : ¬ settings.NamesLevel) :
    host.start settings = (none, host) := by
  have missing := Option.not_isSome_iff_eq_none.mp unknown
  unfold start
  rw [h]
  dsimp only
  rw [missing]

theorem start_of_known (h : host.manager = none) (known : settings.NamesLevel) :
    ∃ threshold started, lineLevels.lookup settings.logLevel = some threshold ∧
      host.start settings = (some false, started) ∧
      started.manager = some { settings, threshold } := by
  obtain ⟨threshold, found⟩ := Option.isSome_iff_exists.mp known
  refine ⟨threshold, (host.start settings).2, found, ?_, ?_⟩
  · unfold start
    rw [h]
    dsimp only
    rw [found]
  · unfold start
    rw [h]
    dsimp only
    rw [found]
    dsimp only [debug]
    rw [manager_print]
    split <;> split <;> simp only [manager_print]

end Host

/-! ## Careers -/

/-- What is done with a host: a manager is started, under the usual settings if none are given, or
asked for, or forgotten; or an emission is taken in. -/
inductive HostStep where
  | start (settings : Option HostSettings)
  | current
  | reset
  | receive (emission : Emission)

/-- A start at a level that is known. -/
def HostStep.Builds : HostStep → Prop
  | start settings => (settings.getD {}).NamesLevel
  | _ => False

/-- A manager and the number of the step that built it. -/
structure BuiltManager where
  step : Nat
  manager : Manager

/-- What a host answers. -/
inductive HostReply where
  | manager (built : Option BuiltManager)
  | refused (message : String)
  | done

/-- A host, how many steps it took, and the number of the one that built a manager last. -/
structure Career where
  host : Host := {}
  taken : Nat := 0
  built : Nat := 0

namespace Career

def current (career : Career) : Option BuiltManager :=
  career.host.manager.map fun manager => ⟨career.built, manager⟩

def take (career : Career) : HostStep → HostReply × Career
  | .start given =>
    let settings := given.getD {}
    match career.host.start settings with
    | (some existed, host) =>
      let built := if existed then career.built else career.taken
      let next : Career := { host, taken := career.taken + 1, built }
      (.manager next.current, next)
    | (none, host) =>
      (.refused (Host.unknownLevelMessage settings.logLevel),
        { career with host, taken := career.taken + 1 })
  | .current => (.manager career.current, { career with taken := career.taken + 1 })
  | .reset => (.done, { career with host := career.host.reset, taken := career.taken + 1 })
  | .receive emission =>
    (.done, { career with host := career.host.receive emission, taken := career.taken + 1 })

/-- Takes steps one after the other. -/
def takeAll (career : Career) (steps : List HostStep) : Career :=
  steps.foldl (fun career step => (career.take step).2) career

/-- The career of a new host after some steps. -/
def after (steps : List HostStep) : Career := ({} : Career).takeAll steps

variable {career : Career}

theorem after_append_singleton (steps : List HostStep) (step : HostStep) :
    after (steps ++ [step]) = ((after steps).take step).2 :=
  List.foldl_concat ..

theorem takeAll_cons (career : Career) (step : HostStep) (steps : List HostStep) :
    career.takeAll (step :: steps) = (career.take step).2.takeAll steps := rfl

/-! ### What a step does -/

theorem current_eq_none_iff : career.current = none ↔ career.host.manager = none :=
  Option.map_eq_none_iff

theorem taken_take (career : Career) (step : HostStep) :
    (career.take step).2.taken = career.taken + 1 := by
  cases step with
  | start given =>
    unfold take
    dsimp only
    split <;> rfl
  | _ => rfl

theorem taken_takeAll (career : Career) (steps : List HostStep) :
    (career.takeAll steps).taken = career.taken + steps.length := by
  induction steps generalizing career with
  | nil => rfl
  | cons step steps ih =>
    rw [takeAll_cons, ih, taken_take, List.length_cons]
    omega

theorem taken_after (steps : List HostStep) : (after steps).taken = steps.length := by
  rw [after, taken_takeAll, Nat.zero_add]

theorem take_start_of_current {built : BuiltManager} (h : career.current = some built)
    (given : Option HostSettings) :
    career.take (.start given) =
      (.manager (some built), { career with taken := career.taken + 1 }) := by
  obtain ⟨manager, there, -⟩ := Option.map_eq_some_iff.mp h
  unfold take
  dsimp only
  rw [Host.start_of_manager there]
  dsimp only
  rw [if_pos rfl, ← h]
  rfl

theorem take_start_of_unknown (h : career.current = none) {given : Option HostSettings}
    (unknown : ¬ (given.getD {}).NamesLevel) :
    career.take (.start given) =
      (.refused (Host.unknownLevelMessage (given.getD {}).logLevel),
        { career with taken := career.taken + 1 }) := by
  unfold take
  dsimp only
  rw [Host.start_of_unknown (current_eq_none_iff.mp h) unknown]

theorem take_start_of_known (h : career.current = none) {given : Option HostSettings}
    (known : (given.getD {}).NamesLevel) :
    ∃ manager, (career.take (.start given)).1 = .manager (some ⟨career.taken, manager⟩) ∧
      (career.take (.start given)).2.current = some ⟨career.taken, manager⟩ ∧
      manager.WorksUnder (given.getD {}) := by
  obtain ⟨threshold, started, found, start, there⟩ :=
    Host.start_of_known (current_eq_none_iff.mp h) known
  refine ⟨{ settings := given.getD {}, threshold }, ?_, ?_, ⟨rfl, found⟩⟩ <;>
    simp [take, start, current, there]

theorem current_take_receive (career : Career) (emission : Emission) :
    (career.take (.receive emission)).2.current =
      career.current.map fun built => { built with manager := built.manager.take emission } := by
  unfold current take
  dsimp only
  rw [Host.manager_receive, Option.map_map, Option.map_map]
  rfl

/-- Only a start at a level that is known gives a host a manager that it did not have. -/
theorem current_take_eq_none (h : career.current = none) {step : HostStep}
    (builds : ¬ step.Builds) : (career.take step).2.current = none := by
  cases step with
  | start given =>
    rw [take_start_of_unknown h builds]
    exact h
  | current => exact h
  | reset => rfl
  | receive emission =>
    rw [current_take_receive, h]
    rfl

theorem current_takeAll_eq_none (h : career.current = none) {steps : List HostStep}
    (builds : ∀ step ∈ steps, ¬ step.Builds) : (career.takeAll steps).current = none := by
  induction steps generalizing career with
  | nil => exact h
  | cons step steps ih =>
    rw [List.forall_mem_cons] at builds
    exact ih (current_take_eq_none h builds.1) builds.2

end Career

/-! ## The first successful start since the last reset -/

/-- The step of a number is a start that is answered with a manager. -/
def Succeeds (steps : List HostStep) (n : Nat) : Prop :=
  ∃ given built, steps[n]? = some (.start given) ∧
    ((Career.after (steps.take n)).take (.start given)).1 = .manager (some built)

/-- Between two steps there is a reset. -/
def ResetBetween (steps : List HostStep) (m n : Nat) : Prop :=
  ∃ k, m < k ∧ k < n ∧ steps[k]? = some .reset

/-- The step of a number is the first successful start since the last reset, with these settings. -/
structure FirstSuccess (steps : List HostStep) (n : Nat) (settings : HostSettings) : Prop where
  starts : ∃ given, steps[n]? = some (.start given) ∧ given.getD {} = settings
  succeeds : Succeeds steps n
  kept : ¬ ResetBetween steps n steps.length
  first : ∀ m < n, Succeeds steps m → ResetBetween steps m n

theorem Succeeds.lt_length {steps : List HostStep} {n : Nat} (h : Succeeds steps n) :
    n < steps.length := by
  obtain ⟨given, -, start, -⟩ := h
  exact (List.getElem?_eq_some_iff.mp start).1

theorem succeeds_append_iff {steps : List HostStep} {n : Nat} (h : n < steps.length)
    (step : HostStep) : Succeeds (steps ++ [step]) n ↔ Succeeds steps n := by
  unfold Succeeds
  rw [List.getElem?_append_left h, List.take_append_of_le_length (Nat.le_of_lt h)]

theorem succeeds_last_iff {steps : List HostStep} {step : HostStep} :
    Succeeds (steps ++ [step]) steps.length ↔
      ∃ given built, step = .start given ∧
        ((Career.after steps).take step).1 = .manager (some built) := by
  unfold Succeeds
  rw [List.getElem?_concat_length, List.take_left]
  constructor
  · rintro ⟨given, built, same, answer⟩
    obtain rfl := Option.some.inj same
    exact ⟨given, built, rfl, answer⟩
  · rintro ⟨given, built, rfl, answer⟩
    exact ⟨given, built, rfl, answer⟩

theorem resetBetween_append_iff {steps : List HostStep} {m n : Nat} (h : n ≤ steps.length)
    (step : HostStep) : ResetBetween (steps ++ [step]) m n ↔ ResetBetween steps m n := by
  unfold ResetBetween
  constructor
  · rintro ⟨k, after, before, reset⟩
    rw [List.getElem?_append_left (by omega)] at reset
    exact ⟨k, after, before, reset⟩
  · rintro ⟨k, after, before, reset⟩
    refine ⟨k, after, before, ?_⟩
    rwa [List.getElem?_append_left (by omega)]

theorem resetBetween_last_iff {steps : List HostStep} {step : HostStep} {m : Nat}
    (h : m < steps.length) :
    ResetBetween (steps ++ [step]) m (steps ++ [step]).length ↔
      ResetBetween steps m steps.length ∨ step = .reset := by
  rw [List.length_append, List.length_singleton]
  constructor
  · rintro ⟨k, after, before, reset⟩
    by_cases last : k = steps.length
    · rw [last, List.getElem?_concat_length] at reset
      exact .inr (Option.some.inj reset)
    · left
      rw [List.getElem?_append_left (by omega)] at reset
      exact ⟨k, after, by omega, reset⟩
  · rintro (⟨k, after, before, reset⟩ | rfl)
    · refine ⟨k, after, by omega, ?_⟩
      rwa [List.getElem?_append_left before]
    · exact ⟨steps.length, h, by omega, List.getElem?_concat_length⟩

namespace FirstSuccess

variable {steps : List HostStep} {n : Nat} {settings : HostSettings}

/-- There is at most one first successful start. -/
theorem unique {m : Nat} {settings' : HostSettings} (h : FirstSuccess steps n settings)
    (h' : FirstSuccess steps m settings') : n = m ∧ settings = settings' := by
  have earlier : ∀ {a b s s'}, FirstSuccess steps a s → FirstSuccess steps b s' → ¬ a < b := by
    intro a b s s' ha hb hlt
    obtain ⟨k, after, before, reset⟩ := hb.first a hlt ha.succeeds
    have bound := hb.succeeds.lt_length
    exact ha.kept ⟨k, after, by omega, reset⟩
  have same : n = m := by
    have := earlier h h'
    have := earlier h' h
    omega
  obtain ⟨given, start, rfl⟩ := h.starts
  obtain ⟨given', start', rfl⟩ := h'.starts
  rw [same, start'] at start
  cases Option.some.inj start
  exact ⟨same, rfl⟩

/-- It stays so after a further step, unless this is a reset. -/
theorem append (h : FirstSuccess steps n settings) {step : HostStep} (hr : step ≠ .reset) :
    FirstSuccess (steps ++ [step]) n settings := by
  have bound := h.succeeds.lt_length
  refine ⟨?_, (succeeds_append_iff bound step).mpr h.succeeds, ?_, ?_⟩
  · rw [List.getElem?_append_left bound]
    exact h.starts
  · rw [resetBetween_last_iff bound]
    rintro (reset | reset)
    · exact h.kept reset
    · exact hr reset
  · intro m before succeeds
    rw [succeeds_append_iff (by omega)] at succeeds
    rw [resetBetween_append_iff (by omega)]
    exact h.first m before succeeds

/-- A successful start is the first one if there was a reset after all earlier ones. -/
theorem of_last {given : Option HostSettings}
    (succeeds : Succeeds (steps ++ [.start given]) steps.length)
    (others : ∀ m, Succeeds steps m → ResetBetween steps m steps.length) :
    FirstSuccess (steps ++ [.start given]) steps.length (given.getD {}) := by
  refine ⟨⟨given, List.getElem?_concat_length, rfl⟩, succeeds, ?_, ?_⟩
  · rintro ⟨k, after, before, -⟩
    rw [List.length_append, List.length_singleton] at before
    omega
  · intro m before earlier
    rw [succeeds_append_iff before] at earlier
    rw [resetBetween_append_iff (Nat.le_refl _)]
    exact others m earlier

end FirstSuccess

/-! ## The manager after any steps -/

namespace Career

variable {steps : List HostStep}

/-- What a career says of the steps that it took: its manager is that of the first successful start
since the last reset, and if there is none, there was a reset after every successful start. -/
structure Follows (career : Career) (steps : List HostStep) : Prop where
  held : ∀ built, career.current = some built →
    ∃ settings, FirstSuccess steps built.step settings ∧ built.manager.WorksUnder settings
  vacant : career.current = none → ∀ m, Succeeds steps m → ResetBetween steps m steps.length

/-- A further step that is not answered with a manager leaves nothing behind that succeeded. -/
theorem Follows.vacant_append (h : (after steps).Follows steps)
    (nothing : (after steps).current = none) {step : HostStep}
    (unanswered : ∀ built, ((after steps).take step).1 ≠ .manager (some built)) (m : Nat)
    (succeeds : Succeeds (steps ++ [step]) m) :
    ResetBetween (steps ++ [step]) m (steps ++ [step]).length := by
  have bound := succeeds.lt_length
  rw [List.length_append, List.length_singleton] at bound
  by_cases last : m = steps.length
  · rw [last, succeeds_last_iff] at succeeds
    obtain ⟨-, built, -, answer⟩ := succeeds
    exact absurd answer (unanswered built)
  · rw [succeeds_append_iff (by omega)] at succeeds
    rw [resetBetween_last_iff (by omega)]
    exact .inl (h.vacant nothing m succeeds)

theorem Follows.start (h : (after steps).Follows steps) (given : Option HostSettings) :
    ((after steps).take (.start given)).2.Follows (steps ++ [.start given]) := by
  cases there : (after steps).current with
  | some built =>
    rw [take_start_of_current there]
    obtain ⟨settings, first, works⟩ := h.held built there
    refine ⟨fun other same => ?_, fun nothing => ?_⟩
    · cases there.symm.trans same
      exact ⟨settings, first.append nofun, works⟩
    · cases there.symm.trans nothing
  | none =>
    by_cases known : (given.getD {}).NamesLevel
    · obtain ⟨manager, answer, next, works⟩ := take_start_of_known there known
      rw [taken_after] at answer next
      have succeeds : Succeeds (steps ++ [.start given]) steps.length :=
        succeeds_last_iff.mpr ⟨given, _, rfl, answer⟩
      refine ⟨fun built same => ?_, fun nothing => ?_⟩
      · cases next.symm.trans same
        exact ⟨_, FirstSuccess.of_last succeeds (h.vacant there), works⟩
      · cases next.symm.trans nothing
    · have refused := take_start_of_unknown there known
      refine ⟨fun built same => ?_, fun _ => h.vacant_append there ?_⟩
      · rw [refused] at same
        cases there.symm.trans same
      · intro built answer
        rw [refused] at answer
        cases answer

theorem follows_reset (career : Career) (steps : List HostStep) :
    (career.take .reset).2.Follows (steps ++ [.reset]) := by
  refine ⟨nofun, fun _ m succeeds => ?_⟩
  have bound := succeeds.lt_length
  rw [List.length_append, List.length_singleton] at bound
  have before : m < steps.length := by
    refine Nat.lt_of_le_of_ne (by omega) fun last => ?_
    rw [last, succeeds_last_iff] at succeeds
    obtain ⟨_, _, start, _⟩ := succeeds
    cases start
  exact (resetBetween_last_iff before).mpr (.inr rfl)

theorem Follows.receive (h : (after steps).Follows steps) (emission : Emission) :
    ((after steps).take (.receive emission)).2.Follows (steps ++ [.receive emission]) := by
  refine ⟨fun built same => ?_, fun nothing => ?_⟩
  · rw [current_take_receive] at same
    obtain ⟨built, there, rfl⟩ := Option.map_eq_some_iff.mp same
    obtain ⟨settings, first, works⟩ := h.held built there
    exact ⟨settings, first.append nofun, works.take emission⟩
  · rw [current_take_receive, Option.map_eq_none_iff] at nothing
    refine h.vacant_append nothing ?_
    intro built answer
    cases answer

theorem follows_after (steps : List HostStep) : (after steps).Follows steps := by
  induction steps using List.reverseRecOn with
  | nil => exact ⟨nofun, fun _ m succeeds => absurd succeeds.lt_length (Nat.not_lt_zero m)⟩
  | append_singleton steps step ih =>
    rw [after_append_singleton]
    cases step with
    | start given => exact ih.start given
    | current =>
      refine ⟨fun built same => ?_, fun nothing => ih.vacant_append nothing ?_⟩
      · obtain ⟨settings, first, works⟩ := ih.held built same
        exact ⟨settings, first.append nofun, works⟩
      · intro built answer
        cases nothing.symm.trans (HostReply.manager.inj answer)
    | reset => exact follows_reset _ steps
    | receive emission => exact ih.receive emission

/-- A host has the manager that the first successful start since the last reset built. -/
theorem firstSuccess_iff {n : Nat} {settings : HostSettings} :
    FirstSuccess steps n settings ↔
      ∃ manager, (after steps).current = some ⟨n, manager⟩ ∧ manager.WorksUnder settings := by
  have follows := follows_after steps
  constructor
  · intro h
    cases there : (after steps).current with
    | none => exact absurd (follows.vacant there n h.succeeds) h.kept
    | some built =>
      obtain ⟨settings', h', works⟩ := follows.held built there
      obtain ⟨rfl, rfl⟩ := h.unique h'
      exact ⟨built.manager, rfl, works⟩
  · rintro ⟨manager, there, works⟩
    obtain ⟨settings', h, works'⟩ := follows.held _ there
    rwa [← works.given, works'.given]

theorem current_after_eq_none_iff :
    (after steps).current = none ↔ ¬ ∃ n settings, FirstSuccess steps n settings := by
  constructor
  · rintro nothing ⟨n, settings, h⟩
    obtain ⟨manager, there, -⟩ := firstSuccess_iff.mp h
    cases nothing.symm.trans there
  · intro h
    cases there : (after steps).current with
    | none => rfl
    | some built =>
      obtain ⟨settings, found, -⟩ := (follows_after steps).held built there
      exact absurd ⟨built.step, settings, found⟩ h

/-- Whatever a host took, its manager is the one that the first successful start since the last
reset built, under the settings of this start, and it has none if there was no such start. While it
has one, any start answers with this one, never refuses, and does nothing else. Without one, a start
at a level that is not known is refused and leaves the host as it was, and one at a level that is
known builds a manager under its own settings; so does the next one of these after a refusal,
whatever is refused, asked for, forgotten or taken in between. -/
theorem current_of_firstSuccess (steps : List HostStep) :
    let career := after steps
    (∀ n settings, FirstSuccess steps n settings ↔
      ∃ manager, career.current = some ⟨n, manager⟩ ∧ manager.WorksUnder settings) ∧
    (career.current = none ↔ ¬ ∃ n settings, FirstSuccess steps n settings) ∧
    career.take .current = (.manager career.current, { career with taken := steps.length + 1 }) ∧
    (∀ built, career.current = some built → ∀ given,
      career.take (.start given) =
        (.manager (some built), { career with taken := steps.length + 1 })) ∧
    (career.current = none → ∀ given, ¬ (given.getD {}).NamesLevel →
      career.take (.start given) =
        (.refused (Host.unknownLevelMessage (given.getD {}).logLevel),
          { career with taken := steps.length + 1 })) ∧
    (career.current = none → ∀ between, (∀ step ∈ between, ¬ step.Builds) →
      ∀ given, (given.getD {}).NamesLevel →
        ∃ manager, ((career.takeAll between).take (.start given)).1 =
            .manager (some ⟨steps.length + between.length, manager⟩) ∧
          ((career.takeAll between).take (.start given)).2.current =
            some ⟨steps.length + between.length, manager⟩ ∧
          manager.WorksUnder (given.getD {})) := by
  intro career
  have length : career.taken = steps.length := taken_after steps
  refine ⟨fun _ _ => firstSuccess_iff, current_after_eq_none_iff, ?_, ?_, ?_, ?_⟩
  · rw [← length]
    rfl
  · intro built there given
    rw [← length]
    exact take_start_of_current there given
  · intro nothing given unknown
    rw [← length]
    exact take_start_of_unknown nothing unknown
  · intro nothing between builds given known
    have still := current_takeAll_eq_none nothing builds
    have count : (career.takeAll between).taken = steps.length + between.length := by
      rw [taken_takeAll, length]
    rw [← count]
    exact take_start_of_known still known

/-- A start at a level that is not known is refused, the next one builds a manager, and then a start
like the refused one answers with this manager. -/
theorem current_of_firstSuccess_afterRefusal :
    let unknown : HostStep := .start (some { logLevel := "VERBOSE" })
    let settings : HostSettings := { logLevel := "ERROR", enableMetrics := false }
    let steps : List HostStep := [unknown, .start (some settings)]
    (({} : Career).take unknown).1 = .refused "Level 'VERBOSE' does not exist" ∧
      ∃ manager, (after steps).current = some ⟨1, manager⟩ ∧
        ((after steps).take unknown).1 = .manager (some ⟨1, manager⟩) ∧
        manager.settings = settings ∧ FirstSuccess steps 1 settings := by
  intro unknown settings steps
  obtain ⟨-, -, -, -, refused, -⟩ := current_of_firstSuccess []
  obtain ⟨-, -, -, -, -, next⟩ := current_of_firstSuccess [unknown]
  obtain ⟨first, -, -, stays, -⟩ := current_of_firstSuccess steps
  have refusal := refused rfl (some { logLevel := "VERBOSE" }) (by decide)
  obtain ⟨manager, -, built, works⟩ :=
    next rfl [] (List.forall_mem_nil _) (some settings) (by decide)
  refine ⟨congrArg Prod.fst refusal, manager, built, ?_, works.given, ?_⟩
  · exact congrArg Prod.fst (stays _ built _)
  · exact (first 1 settings).mpr ⟨manager, built, works⟩

end Career

end BpmnAudit
