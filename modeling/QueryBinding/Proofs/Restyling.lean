-- Loggers whose settings are changed while they are in use. A logger writes all its life in the
-- style that was set when it was first used, and what it writes passes by the level of that style
-- and by the level that is set now.
import QueryBinding.Proofs.Events

namespace QueryBinding.Log

/-! ## What is done with the log -/

/-- Settings are changed, loggers are handed out, events are logged, and blocks bind values. -/
inductive Step where
  | configure (settings : Settings) (force : Bool)
  | newLogger (name : String)
  | log (l : Logger) (level : Level) (event : String) (values : Fields)
  | enter (values : Fields)
  | leave (tokens : List Journal.Token)

namespace Step

def perform : Step → Journal → Journal
  | configure settings force, s => s.configure settings force
  | newLogger name, s => (s.logger name).2
  | log l level event values, s => s.log l level event values
  | enter values, s => (s.enter values).2
  | leave tokens, s => s.leave tokens

/-- The settings that a step brings. Once the log is set up, only forced ones count. -/
def forced? : Step → Option Settings
  | configure settings true => some settings
  | _ => none

/-- Whether a step logs through a logger. -/
def uses (l : Logger) : Step → Bool
  | log other _ _ _ => other.id == l.id
  | _ => false

end Step

/-- The log after some steps. -/
def after (steps : List Step) (s : Journal) : Journal :=
  steps.foldl (fun s step => step.perform s) s

/-- The style of the last settings that were forced, or the style from before. -/
def latest (before : Style) (steps : List Step) : Style :=
  ((steps.filterMap Step.forced?).getLast?.map Style.ofSettings).getD before

/-- The steps before the first one that uses a logger. -/
def untilUsed (l : Logger) (steps : List Step) : List Step := steps.takeWhile (!·.uses l)

variable {s : Journal} {step : Step} {steps : List Step} {style : Style} {l : Logger}

/-! ## One step -/

/-- A logger that is used keeps the style that it has at that time. -/
theorem Journal.lookup_keep (s : Journal) (l other : Logger) : (s.keep l).kept.lookup other.id =
    if l.id == other.id then some (s.styleOf other) else s.kept.lookup other.id := by
  unfold keep styleOf
  by_cases hid : l.id = other.id
  · rw [hid, beq_self_eq_true, if_pos rfl]
    rcases hkept : s.kept.lookup other.id with _ | style
    · simp
    · simp [hkept]
  · have hne : (other.id == l.id) = false := beq_false_of_ne (Ne.symm hid)
    have hne' : (l.id == other.id) = false := beq_false_of_ne hid
    rw [hne', if_neg Bool.false_ne_true]
    split
    · rfl
    · rw [List.lookup_cons, hne]

theorem configured_perform (h : s.configured = true) : (step.perform s).configured = true := by
  cases step with
  | configure settings force =>
    simp only [Step.perform, Journal.configure]
    split
    · exact h
    · rfl
  | log l level event values =>
    rw [Step.perform, s.log_eq]
    exact h
  | _ => exact h

theorem style_perform (h : s.configured = true) :
    (step.perform s).style = (step.forced?.map Style.ofSettings).getD s.style := by
  cases step with
  | configure settings force =>
    cases force with
    | true =>
      simp only [Step.perform, Journal.configure]
      simp [Step.forced?]
    | false =>
      simp only [Step.perform, Journal.configure, h]
      rfl
  | log l level event values =>
    rw [Step.perform, s.log_eq]
    rfl
  | _ => rfl

theorem kept_perform (l : Logger) : (step.perform s).kept.lookup l.id =
    if step.uses l then some (s.styleOf l) else s.kept.lookup l.id := by
  cases step with
  | configure settings force =>
    simp only [Step.perform, Journal.configure]
    split <;> rfl
  | log other level event values =>
    rw [Step.perform, s.log_eq, s.lookup_keep]
    rfl
  | _ => rfl

/-! ## All steps -/

theorem latest_cons (before : Style) (step : Step) (steps : List Step) :
    latest before (step :: steps) =
      latest ((step.forced?.map Style.ofSettings).getD before) steps := by
  unfold latest
  rw [List.filterMap_cons]
  rcases step.forced? with _ | settings
  · rfl
  · rw [List.getLast?_cons]
    rcases (steps.filterMap Step.forced?).getLast? with _ | last <;> rfl

theorem style_after (h : s.configured = true) : (after steps s).style = latest s.style steps := by
  induction steps generalizing s with
  | nil => rfl
  | cons step steps ih =>
    rw [latest_cons, ← style_perform h]
    exact ih (configured_perform h)

theorem untilUsed_cons (l : Logger) (step : Step) (steps : List Step) :
    untilUsed l (step :: steps) = if step.uses l then [] else step :: untilUsed l steps := by
  unfold untilUsed
  rw [List.takeWhile_cons]
  cases step.uses l <;> rfl

/-- A logger has the style that it had kept before, or else the style that was set when it was
first used. -/
theorem styleOf_after (h : s.configured = true) (l : Logger) :
    (after steps s).styleOf l = (s.kept.lookup l.id).getD (latest s.style (untilUsed l steps)) := by
  induction steps generalizing s with
  | nil => rfl
  | cons step steps ih =>
    have hrest : (after (step :: steps) s).styleOf l = (after steps (step.perform s)).styleOf l :=
      rfl
    rw [hrest, ih (configured_perform h), kept_perform, untilUsed_cons]
    split
    · rfl
    · rw [latest_cons, style_perform h]

/-! ## What a line shows -/

/-- The environment that an event tells: the one that is given or bound, or else that of a style. -/
def environment (style : Style) (values bound : Fields) : Value :=
  (values.lookup "app_env").getD ((bound.lookup "app_env").getD (.text style.appEnv))

/-- A line is written as a style has it, as fields or as text, and tells an environment. -/
def Line.Shows (style : Style) (told : Value) : Line → Prop
  | .fields entries => style.json = true ∧ entries.lookup "app_env" = some told
  | .text _ rest => style.json = false ∧
      ∃ entries, rest = lineText entries ∧ entries.lookup "app_env" = some told

theorem Journal.shows_lineIn (s : Journal) (style : Style) (l : Logger) (level : Level)
    (event : String) (values : Fields) :
    (s.lineIn style l level event values).Shows style (environment style values s.bound) := by
  have htold : (eventFields style s.stamp s.raised l.name level event values s.bound).lookup
      "app_env" = some (environment style values s.bound) := by
    rw [lookup_eventFields_rest (by decide), told_of_ne (by decide), if_pos rfl, environment]
    rcases values.lookup "app_env" with _ | given
    · rcases s.bound.lookup "app_env" with _ | held <;> rfl
    · rfl
  rw [lineIn, writeLine]
  split
  · rename_i hjson
    exact ⟨hjson, htold⟩
  · rename_i hjson
    exact ⟨eq_false_of_ne_true hjson, _, rfl, htold⟩

/-! ## The law of loggers -/

/-- When all settings that count were set before a logger was first used, the style of its first use
is the style that is set now. -/
theorem latest_untilUsed {before since : List Step} {settings : Settings} (first : Style)
    (hbefore : ∀ step ∈ before, step.uses l = false)
    (hsince : ∀ step ∈ since, step.forced? = none) :
    latest first (untilUsed l (before ++ .configure settings true :: since)) =
        Style.ofSettings settings ∧
      latest first (before ++ .configure settings true :: since) = Style.ofSettings settings := by
  have hsettled : ∀ steps : List Step, (∀ step ∈ steps, step.forced? = none) →
      latest first (before ++ .configure settings true :: steps) = Style.ofSettings settings := by
    intro steps hsteps
    have hnone : steps.filterMap Step.forced? = [] := List.filterMap_eq_nil_iff.2 hsteps
    unfold latest
    rw [List.filterMap_append, List.filterMap_cons, Step.forced?, hnone, List.getLast?_concat]
    rfl
  have huntil : untilUsed l (before ++ .configure settings true :: since) =
      before ++ .configure settings true :: untilUsed l since := by
    unfold untilUsed
    rw [List.takeWhile_append_of_pos fun step hstep => by simp [hbefore step hstep],
      List.takeWhile_cons_of_pos rfl]
  rw [huntil]
  refine ⟨hsettled _ fun step hstep => ?_, hsettled _ hsince⟩
  exact hsince step ((List.takeWhile_sublist _).subset hstep)

/-- After any steps, a logger writes an event in the style that was set when the logger was first
used, or that is set now if it was not used before. The event passes when it reaches the level of
that style and the level that is set now, and its line shows that style, with the environment of
that style if no other is given or bound. So a logger that was not used before the last forced
settings, whenever it was handed out, works by these settings alone: it writes just the events of
their level, in their style. -/
theorem a_logger_writes_as_was_set_at_its_first_use (settings : Settings) (steps : List Step)
    (l : Logger) (level : Level) (event : String) (values : Fields) :
    let now := after steps (.initial settings)
    let kept := latest (Style.ofSettings settings) (untilUsed l steps)
    let set := latest (Style.ofSettings settings) steps
    ((now.log l level event values).lines = now.lines ++
      if kept.level.rank ≤ level.rank ∧ set.level.rank ≤ level.rank then
        [now.lineIn kept l level event values] else []) ∧
    (∀ style, (now.lineIn style l level event values).Shows style
      (environment style values now.bound)) ∧
    ∀ before newest since, steps = before ++ .configure newest true :: since →
      (∀ step ∈ before, step.uses l = false) → (∀ step ∈ since, step.forced? = none) →
      (now.log l level event values).lines = now.lines ++
        if (Style.ofSettings newest).level.rank ≤ level.rank then
          [now.lineIn (Style.ofSettings newest) l level event values] else [] := by
  intro now kept set
  have hset : now.style = set := style_after rfl
  have hkept : now.styleOf l = kept := styleOf_after rfl l
  have hlines : (now.log l level event values).lines = now.lines ++
      if kept.level.rank ≤ level.rank ∧ set.level.rank ≤ level.rank then
        [now.lineIn kept l level event values] else [] := by
    rw [now.lines_log, hkept]
    simp only [Journal.Lets, hkept, hset]
  refine ⟨hlines, fun style => now.shows_lineIn style l level event values, ?_⟩
  rintro before newest since rfl hbefore hsince
  obtain ⟨hfirst, hlast⟩ := latest_untilUsed (Style.ofSettings settings) hbefore hsince
  have hkept' : kept = Style.ofSettings newest := hfirst
  have hset' : set = Style.ofSettings newest := hlast
  rw [hlines, hkept', hset']
  simp only [and_self]

/-- Settings that let everything be told. -/
def verbose : Settings := { Settings.standard with logLevel := "DEBUG" }

/-- A logger that was handed out before, and is first used after the settings have changed. -/
theorem a_word_of_a_new_listener_is_heard :
    (∀ step ∈ [Step.newLogger "tests"], step.uses materializeLogger = false) ∧
    (∀ step ∈ [Step.newLogger "more"], step.forced? = none) ∧
    (let now := after [.newLogger "tests", .configure verbose true, .newLogger "more"]
      (.initial .standard)
    (now.log materializeLogger .debug "Materialization completed" []).lines =
      [now.lineIn (Style.ofSettings verbose) materializeLogger .debug
        "Materialization completed" []]) := by
  have hbefore : ∀ step ∈ [Step.newLogger "tests"], step.uses materializeLogger = false := by
    simp [Step.uses]
  have hsince : ∀ step ∈ [Step.newLogger "more"], step.forced? = none := by
    simp [Step.forced?]
  refine ⟨hbefore, hsince, ?_⟩
  have hlines := (a_logger_writes_as_was_set_at_its_first_use .standard
    [.newLogger "tests", .configure verbose true, .newLogger "more"] materializeLogger .debug
    "Materialization completed" []).2.2 _ verbose _ rfl hbefore hsince
  rw [if_pos (by decide +kernel)] at hlines
  exact hlines

/-- One line is written for an event that reaches the level of a style, as the style has it and
with its environment, and none for any other. -/
def Obeys (style : Style) (level : Level) (written : List Line) : Prop :=
  if style.level.rank ≤ level.rank then
    ∃ line, written = [line] ∧ line.Shows style (.text style.appEnv)
  else written = []

/-- A logger that was used before does not follow new settings. And an event that names its
environment itself keeps it, also through a logger that is new. -/
theorem new_settings_do_not_reach_everything :
    (let steps := [.log materializeLogger .info "Ready" [], .configure verbose true]
    let now := after steps (.initial .standard)
    ¬ ∃ written, (now.log materializeLogger .debug "Materialization completed" []).lines =
        now.lines ++ written ∧
      Obeys (latest (Style.ofSettings .standard) steps) .debug written) ∧
    (let steps := [.configure staging true]
    let now := after steps (.initial .standard)
    ¬ ∃ written, (now.log ⟨3, "tests"⟩ .info "hello" [("app_env", .text "test")]).lines =
        now.lines ++ written ∧
      Obeys (latest (Style.ofSettings .standard) steps) .info written) := by
  refine ⟨?_, ?_⟩
  · rintro steps now ⟨written, hlines, hobeys⟩
    have hkept : now.styleOf materializeLogger = Style.ofSettings .standard := styleOf_after rfl _
    have hlets : ¬ now.Lets materializeLogger .debug := by
      rw [Journal.Lets, hkept]
      exact fun h => absurd h.1 (by decide +kernel)
    rw [now.lines_log, if_neg hlets] at hlines
    obtain rfl : [] = written := List.append_cancel_left hlines
    have hloud : (latest (Style.ofSettings .standard) steps).level.rank ≤ Level.debug.rank := by
      decide +kernel
    rw [Obeys, if_pos hloud] at hobeys
    obtain ⟨line, hline, -⟩ := hobeys
    cases hline
  · rintro steps now ⟨written, hlines, hobeys⟩
    have hlets : now.Lets ⟨3, "tests"⟩ .info := by decide +kernel
    have hloud : (latest (Style.ofSettings .standard) steps).level.rank ≤ Level.info.rank := by
      decide +kernel
    have hjson : (now.styleOf ⟨3, "tests"⟩).json = true := rfl
    rw [now.lines_log, if_pos hlets, now.lineIn_of_json hjson] at hlines
    obtain rfl : [_] = written := List.append_cancel_left hlines
    rw [Obeys, if_pos hloud] at hobeys
    obtain ⟨line, hline, hshows⟩ := hobeys
    cases hline
    obtain ⟨-, hset⟩ := hshows
    rw [lookup_eventFields_rest (by decide : "app_env" ∉ ownKeys), told_of_ne (by decide)] at hset
    have hgiven : "test" = "staging" := Value.text.inj (Option.some.inj hset)
    exact absurd hgiven (by decide)

end QueryBinding.Log
