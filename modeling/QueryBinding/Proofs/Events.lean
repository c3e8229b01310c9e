-- What is written for an event. The stages that an event goes through set some keys of their own;
-- under every other key stands what the call gives, or what is bound, or what the settings say.
import QueryBinding.Log

namespace QueryBinding

namespace Keyed

theorem lookup_putNew {α : Type} (key other : String) (value : α) (entries : List (String × α)) :
    (putNew key value entries).lookup other =
      (entries.lookup other).or (if other = key then some value else none) := by
  unfold putNew
  by_cases h : other = key
  · subst h
    rw [if_pos rfl]
    rcases hold : entries.lookup other with _ | v
    · simp [List.lookup_append, hold]
    · simp [hold]
  · have hne : (other == key) = false := by simpa using h
    rw [if_neg h, Option.or_none]
    split
    · rfl
    · simp [List.lookup_append, List.lookup_cons, hne]

end Keyed

namespace Log

variable {fields values bound : Fields} {style : Style} {stamp logger event : String}
  {exception : Option String} {level : Level} {key : String}

/-! ## Stage by stage -/

/-- What is bound comes under the keys that the event does not have. -/
theorem lookup_mergeBound (bound fields : Fields) (key : String) :
    (mergeBound bound fields).lookup key = (fields.lookup key).or (bound.lookup key) := by
  induction bound generalizing fields with
  | nil => simp [mergeBound]
  | cons e bound ih =>
    obtain ⟨k, v⟩ := e
    have hmerge : mergeBound ((k, v) :: bound) fields =
        mergeBound bound (Keyed.putNew k v fields) := rfl
    rw [hmerge, ih, Keyed.lookup_putNew, Option.or_assoc, List.lookup_cons]
    by_cases hk : key = k
    · subst hk
      simp
    · have hne : (key == k) = false := by simpa using hk
      simp [hk, hne]

theorem lookup_renameEvent {v : Value} (h : fields.lookup "event" = some v) (key : String) :
    (renameEvent fields).lookup key =
      if key = "message" then some v else if key = "event" then none else fields.lookup key := by
  unfold renameEvent
  rw [h]
  dsimp only
  by_cases hmessage : key = "message"
  · subst hmessage
    rw [Keyed.lookup_put_self, if_pos rfl]
  · rw [Keyed.lookup_put_ne hmessage, if_neg hmessage]
    by_cases hevent : key = "event"
    · subst hevent
      rw [Keyed.lookup_remove_self, if_pos rfl]
    · rw [Keyed.lookup_remove_ne hevent, if_neg hevent]

theorem lookup_tellException_excInfo (exception : Option String) (fields : Fields) :
    (tellException exception fields).lookup "exc_info" = none := by
  unfold tellException
  cases exception with
  | none => exact Keyed.lookup_remove_self ..
  | some told =>
    dsimp only
    split
    · rw [Keyed.lookup_put_ne (by decide), Keyed.lookup_remove_self]
    · exact Keyed.lookup_remove_self ..

theorem lookup_tellException (exception : Option String) (fields : Fields)
    (hinfo : key ≠ "exc_info") : (tellException exception fields).lookup key =
      (if key = "exception" ∧ (fields.lookup "exc_info").any asksForException then
        exception.map .text else none).or (fields.lookup key) := by
  unfold tellException
  cases exception with
  | none =>
    rw [Option.map_none, ite_self, Option.none_or]
    exact Keyed.lookup_remove_ne hinfo _
  | some told =>
    dsimp only
    by_cases hasked : (fields.lookup "exc_info").any asksForException
    · rw [if_pos hasked]
      by_cases hkey : key = "exception"
      · rw [if_pos ⟨hkey, hasked⟩, hkey, Keyed.lookup_put_self]
        rfl
      · rw [if_neg (fun h => hkey h.1), Keyed.lookup_put_ne hkey, Keyed.lookup_remove_ne hinfo]
        rfl
    · rw [if_neg hasked, if_neg (fun h => hasked h.2), Keyed.lookup_remove_ne hinfo]
      rfl

/-- The keys that the stages set or take away themselves, whatever is given or bound under them. -/
def ownKeys : List String := ["message", "event", "timestamp", "level", "logger", "exc_info"]

/-- The fields of an event before its text is moved. -/
def gathered (style : Style) (stamp : String) (logger : String) (level : Level) (event : String)
    (values bound : Fields) : Fields :=
  Keyed.putNew "app_env" (.text style.appEnv) (Keyed.put "logger" (.text logger)
    (Keyed.put "level" (.text level.text) (Keyed.put "timestamp" (.text stamp)
      (mergeBound bound (Keyed.put "event" (.text event) values)))))

theorem eventFields_eq : eventFields style stamp exception logger level event values bound =
    tellException exception (renameEvent (gathered style stamp logger level event values bound)) :=
  rfl

theorem lookup_gathered_event :
    (gathered style stamp logger level event values bound).lookup "event" = some (.text event) := by
  rw [gathered, Keyed.lookup_putNew, Keyed.lookup_put_ne (by decide),
    Keyed.lookup_put_ne (by decide), Keyed.lookup_put_ne (by decide), lookup_mergeBound,
    Keyed.lookup_put_self]
  rfl

/-- What the call gives comes before what is bound, and what is bound before what the settings
say. -/
theorem lookup_gathered_rest (hevent : key ≠ "event") (hstamp : key ≠ "timestamp")
    (hlevel : key ≠ "level") (hlogger : key ≠ "logger") :
    (gathered style stamp logger level event values bound).lookup key =
      (values.lookup key).or ((bound.lookup key).or
        (if key = "app_env" then some (.text style.appEnv) else none)) := by
  rw [gathered, Keyed.lookup_putNew, Keyed.lookup_put_ne hlogger, Keyed.lookup_put_ne hlevel,
    Keyed.lookup_put_ne hstamp, lookup_mergeBound, Keyed.lookup_put_ne hevent, Option.or_assoc]

/-- The exception at hand, under its key, if what is given or else bound asks for it. -/
def told (exception : Option String) (values bound : Fields) (key : String) : Option Value :=
  if key = "exception" ∧
      ((values.lookup "exc_info").or (bound.lookup "exc_info")).any asksForException then
    exception.map .text
  else none

theorem lookup_eventFields (hinfo : key ≠ "exc_info") :
    (eventFields style stamp exception logger level event values bound).lookup key =
      (told exception values bound key).or
        (if key = "message" then some (.text event) else if key = "event" then none
        else (gathered style stamp logger level event values bound).lookup key) := by
  have hasked : (renameEvent (gathered style stamp logger level event values bound)).lookup
      "exc_info" = (values.lookup "exc_info").or (bound.lookup "exc_info") := by
    rw [lookup_renameEvent lookup_gathered_event, if_neg (by decide), if_neg (by decide),
      lookup_gathered_rest (by decide) (by decide) (by decide) (by decide), if_neg (by decide),
      Option.or_none]
  rw [eventFields_eq, lookup_tellException _ _ hinfo, hasked,
    lookup_renameEvent lookup_gathered_event]
  rfl

theorem told_of_ne (h : key ≠ "exception") : told exception values bound key = none :=
  if_neg fun htold => h htold.1

theorem lookup_eventFields_message :
    (eventFields style stamp exception logger level event values bound).lookup "message" =
      some (.text event) := by
  rw [lookup_eventFields (by decide), told_of_ne (by decide), if_pos rfl]
  rfl

theorem lookup_eventFields_event :
    (eventFields style stamp exception logger level event values bound).lookup "event" = none := by
  rw [lookup_eventFields (by decide), told_of_ne (by decide), if_neg (by decide), if_pos rfl]
  rfl

theorem lookup_eventFields_excInfo :
    (eventFields style stamp exception logger level event values bound).lookup "exc_info" =
      none := by
  rw [eventFields_eq, lookup_tellException_excInfo]

theorem lookup_eventFields_timestamp :
    (eventFields style stamp exception logger level event values bound).lookup "timestamp" =
      some (.text stamp) := by
  rw [lookup_eventFields (by decide), told_of_ne (by decide), if_neg (by decide),
    if_neg (by decide), gathered, Keyed.lookup_putNew, Keyed.lookup_put_ne (by decide),
    Keyed.lookup_put_ne (by decide), Keyed.lookup_put_self]
  rfl

theorem lookup_eventFields_level :
    (eventFields style stamp exception logger level event values bound).lookup "level" =
      some (.text level.text) := by
  rw [lookup_eventFields (by decide), told_of_ne (by decide), if_neg (by decide),
    if_neg (by decide), gathered, Keyed.lookup_putNew, Keyed.lookup_put_ne (by decide),
    Keyed.lookup_put_self]
  rfl

theorem lookup_eventFields_logger :
    (eventFields style stamp exception logger level event values bound).lookup "logger" =
      some (.text logger) := by
  rw [lookup_eventFields (by decide), told_of_ne (by decide), if_neg (by decide),
    if_neg (by decide), gathered, Keyed.lookup_putNew, Keyed.lookup_put_self]
  rfl

/-- Under a key that the stages leave alone stands what is given or bound, unless the exception is
told there. -/
theorem lookup_eventFields_rest (h : key ∉ ownKeys) :
    (eventFields style stamp exception logger level event values bound).lookup key =
      (told exception values bound key).or ((values.lookup key).or ((bound.lookup key).or
        (if key = "app_env" then some (.text style.appEnv) else none))) := by
  simp only [ownKeys, List.mem_cons, List.not_mem_nil, or_false, not_or] at h
  obtain ⟨hmessage, hevent, hstamp, hlevel, hlogger, hinfo⟩ := h
  rw [lookup_eventFields hinfo, if_neg hmessage, if_neg hevent,
    lookup_gathered_rest hevent hstamp hlevel hlogger]

/-! ## The line of an event -/

namespace Journal

/-- An event passes when it reaches the level of its logger and that of the output. -/
def Lets (s : Journal) (l : Logger) (level : Level) : Prop :=
  (s.styleOf l).level.rank ≤ level.rank ∧ s.style.level.rank ≤ level.rank

instance (s : Journal) (l : Logger) (level : Level) : Decidable (s.Lets l level) :=
  inferInstanceAs (Decidable (_ ∧ _))

/-- Keeping the style of a logger changes nothing else. -/
theorem keep_eq (s : Journal) (l : Logger) : s.keep l = { s with kept := (s.keep l).kept } := by
  unfold keep
  split <;> rfl

/-- Logging changes nothing but the styles that are kept and what is written. -/
theorem log_eq (s : Journal) (l : Logger) (level : Level) (event : String) (values : Fields) :
    s.log l level event values = { s with
      kept := (s.keep l).kept
      lines := (s.log l level event values).lines
      files := (s.log l level event values).files } := by
  unfold log
  dsimp only
  rw [keep_eq]
  split <;> rfl

/-- The line of an event in a style. -/
def lineIn (s : Journal) (style : Style) (l : Logger) (level : Level) (event : String)
    (values : Fields) : Line :=
  writeLine style (eventFields style s.stamp s.raised l.name level event values s.bound)

theorem lineIn_of_json (s : Journal) (h : style.json = true) (l : Logger) (level : Level)
    (event : String) (values : Fields) : s.lineIn style l level event values =
      .fields (eventFields style s.stamp s.raised l.name level event values s.bound) := by
  rw [lineIn, writeLine, if_pos h]

theorem lines_log (s : Journal) (l : Logger) (level : Level) (event : String) (values : Fields) :
    (s.log l level event values).lines = s.lines ++
      if s.Lets l level then [s.lineIn (s.styleOf l) l level event values] else [] := by
  unfold log
  dsimp only
  rw [keep_eq]
  by_cases hlets : s.Lets l level
  · have hpass : ¬ ((decide (level.rank < (s.styleOf l).level.rank) ||
        decide (level.rank < s.style.level.rank)) = true) := by
      obtain ⟨hown, houtput⟩ := hlets
      simp only [Bool.or_eq_true, decide_eq_true_eq]
      omega
    rw [if_neg hpass, if_pos hlets]
    rfl
  · have hpass : (decide (level.rank < (s.styleOf l).level.rank) ||
        decide (level.rank < s.style.level.rank)) = true := by
      unfold Lets at hlets
      simp only [Bool.or_eq_true, decide_eq_true_eq]
      omega
    rw [if_pos hpass, if_neg hlets, List.append_nil]

end Journal

/-! ## The law of events -/

/-- What a call gives, or else what is bound, under the key that asks for the exception. -/
def Journal.info? (s : Journal) (values : Fields) : Option Value :=
  (values.lookup "exc_info").or (s.bound.lookup "exc_info")

/-- Other values than tuples ask for the exception if they count as true. -/
theorem any_asksForException {info : Option Value} (h : ∀ items, info ≠ some (.tuple items)) :
    info.any asksForException = info.any Value.isTrue := by
  cases info with
  | none => rfl
  | some v =>
    cases v with
    | tuple items => exact absurd rfl (h items)
    | _ => rfl

/-- A call to a logger that works by settings with JSON lines, loud enough to pass, writes one
line. Its fields have the text of the event as the message; time stamp, level and logger are set,
and the request for an exception is taken out, whatever is given or bound under these keys. If an
exception is at hand and asked for, it is told under its key. Under every other key stands what the
call gives, or else what is bound, and the environment of the settings stands under its key if
neither gives or binds another. -/
theorem an_event_holds_what_is_given_and_what_is_bound (s : Journal) (l : Logger) (level : Level)
    (event : String) (values : Fields) (settings : Settings)
    (hstyle : s.styleOf l = Style.ofSettings settings) (hjson : settings.logJson = true)
    (hlets : s.Lets l level) (hinfo : ∀ items, s.info? values ≠ some (.tuple items)) :
    ∃ fields, (s.log l level event values).lines = s.lines ++ [.fields fields] ∧
      fields.lookup "message" = some (.text event) ∧
      fields.lookup "timestamp" = some (.text s.stamp) ∧
      fields.lookup "level" = some (.text level.text) ∧
      fields.lookup "logger" = some (.text l.name) ∧
      fields.lookup "event" = none ∧ fields.lookup "exc_info" = none ∧
      (∀ text, s.raised = some text → (s.info? values).any Value.isTrue →
        fields.lookup "exception" = some (.text text)) ∧
      ∀ key ∉ ownKeys,
        (key = "exception" → s.raised = none ∨ (s.info? values).any Value.isTrue = false) →
        fields.lookup key = (values.lookup key).or ((s.bound.lookup key).or
          (if key = "app_env" then some (.text settings.appEnv) else none)) := by
  have htold : ∀ key, told s.raised values s.bound key =
      if key = "exception" ∧ (s.info? values).any Value.isTrue then s.raised.map .text
      else none := by
    intro key
    rw [← any_asksForException hinfo]
    rfl
  refine ⟨eventFields (Style.ofSettings settings) s.stamp s.raised l.name level event values
    s.bound, ?_, lookup_eventFields_message, lookup_eventFields_timestamp, lookup_eventFields_level,
    lookup_eventFields_logger, lookup_eventFields_event, lookup_eventFields_excInfo, ?_, ?_⟩
  · rw [s.lines_log, if_pos hlets, hstyle, s.lineIn_of_json hjson]
  · intro text hraised hasked
    rw [lookup_eventFields_rest (by decide), htold, if_pos ⟨rfl, hasked⟩, hraised]
    rfl
  · intro key hkey hquiet
    have hnone : told s.raised values s.bound key = none := by
      rw [htold]
      split
      · rename_i hasked
        rcases hquiet hasked.1 with hraised | hunasked
        · rw [hraised]
          rfl
        · rw [hasked.2] at hunasked
          cases hunasked
      · rfl
    rw [lookup_eventFields_rest hkey, hnone]
    rfl

/-- The settings of a stage. -/
def staging : Settings := { Settings.standard with appEnv := "staging" }

/-- The log of that stage, inside a block that binds a target. -/
def listing : Journal :=
  (((Journal.initial .standard).configure staging true).enter [("target", .text "Listing")]).2

theorem a_listing_is_told_with_its_target_and_stage :
    listing.styleOf ⟨3, "tests"⟩ = Style.ofSettings staging ∧ staging.logJson = true ∧
    listing.Lets ⟨3, "tests"⟩ .info ∧
    (∀ items, listing.info? [("count", .int 2)] ≠ some (.tuple items)) ∧
    ∃ fields, (listing.log ⟨3, "tests"⟩ .info "Listing read" [("count", .int 2)]).lines =
        [.fields fields] ∧
      fields.lookup "message" = some (.text "Listing read") ∧
      fields.lookup "count" = some (.int 2) ∧
      fields.lookup "target" = some (.text "Listing") ∧
      fields.lookup "app_env" = some (.text "staging") := by
  have hlets : listing.Lets ⟨3, "tests"⟩ .info := by decide +kernel
  have hinfo : ∀ items, listing.info? [("count", .int 2)] ≠ some (.tuple items) := by
    intro items
    change none ≠ _
    nofun
  obtain ⟨fields, hline, hmessage, -, -, -, -, -, -, hrest⟩ :=
    an_event_holds_what_is_given_and_what_is_bound listing ⟨3, "tests"⟩ .info "Listing read"
      [("count", .int 2)] staging rfl rfl hlets hinfo
  refine ⟨rfl, rfl, hlets, hinfo, fields, hline, hmessage, ?_, ?_, ?_⟩
  · rw [hrest "count" (by decide) (by decide)]
    rfl
  · rw [hrest "target" (by decide) (by decide)]
    rfl
  · rw [hrest "app_env" (by decide) (by decide)]
    rfl

/-- All that is given and bound is in the fields of an event, and the environment if neither gives
or binds another. -/
structure HoldsAll (event : String) (values bound : Fields) (appEnv : String) (fields : Fields) :
    Prop where
  message : fields.lookup "message" = some (.text event)
  given : ∀ key v, values.lookup key = some v → fields.lookup key = some v
  carried : ∀ key v, values.lookup key = none → bound.lookup key = some v →
    fields.lookup key = some v
  environment : values.lookup "app_env" = none → bound.lookup "app_env" = none →
    fields.lookup "app_env" = some (.text appEnv)

theorem lookup_eventFields_own (h : key ∈ ownKeys) (b : Bool) :
    (eventFields style stamp exception logger level event values bound).lookup key ≠
      some (.bool b) := by
  simp only [ownKeys, List.mem_cons, List.not_mem_nil, or_false] at h
  rcases h with rfl | rfl | rfl | rfl | rfl | rfl
  · rw [lookup_eventFields_message]
    nofun
  · rw [lookup_eventFields_event]
    nofun
  · rw [lookup_eventFields_timestamp]
    nofun
  · rw [lookup_eventFields_level]
    nofun
  · rw [lookup_eventFields_logger]
    nofun
  · rw [lookup_eventFields_excInfo]
    nofun

/-- The first line of a log that is as it was first set up, but for what is bound and what is being
handled. -/
theorem first_line_of_log {s : Journal}
    (hs : s = { Journal.initial .standard with bound := s.bound, raised := s.raised })
    (event : String) {values fields : Fields}
    (h : (s.log ⟨3, "test"⟩ .info event values).lines = [.fields fields]) :
    fields = eventFields (Style.ofSettings .standard) "" s.raised "test" .info event values
      s.bound := by
  have hlets : s.Lets ⟨3, "test"⟩ .info := by
    rw [hs]
    exact (by decide +kernel : (Journal.initial .standard).Lets ⟨3, "test"⟩ .info)
  rw [s.lines_log, if_pos hlets, hs] at h
  have hline := List.singleton_inj.1 h
  exact (Line.fields.inj hline).symm

/-- A block has bound one thing in the log. -/
def holding (key : String) : Journal :=
  ((Journal.initial .standard).enter [(key, .bool false)]).2

/-- A block has bound an exception of its own, and the request for the one that is being handled. -/
def recovering : Journal :=
  (((Journal.initial .standard).enter
    [("exc_info", .bool true), ("exception", .text "mine")]).2).handling .endless

/-- What is bound or given under a key of the log's own is lost, and so is what is bound under the
key of the exception when another one is told there. (The text of an event cannot be given a second
time.) -/
theorem a_value_under_a_key_of_the_log_is_lost :
    (∀ key ∈ ownKeys, ¬ ∃ fields,
      ((holding key).log ⟨3, "test"⟩ .info "hello" []).lines = [.fields fields] ∧
        HoldsAll "hello" [] (holding key).bound "dev" fields) ∧
    (∀ key ∈ ownKeys, key ≠ "event" → ¬ ∃ fields,
      ((Journal.initial .standard).log ⟨3, "test"⟩ .info "hello" [(key, .bool false)]).lines =
        [.fields fields] ∧ HoldsAll "hello" [(key, .bool false)] [] "dev" fields) ∧
    ¬ ∃ fields, (recovering.log ⟨3, "test"⟩ .info "hello" []).lines = [.fields fields] ∧
      HoldsAll "hello" [] recovering.bound "dev" fields := by
  refine ⟨?_, ?_, ?_⟩
  · rintro key hkey ⟨fields, hline, hall⟩
    have hbound : (holding key).bound.lookup key = some (.bool false) := by
      change List.lookup key [(key, Value.bool false)] = _
      simp
    obtain rfl := first_line_of_log rfl "hello" hline
    exact lookup_eventFields_own hkey false (hall.carried key _ rfl hbound)
  · rintro key hkey - ⟨fields, hline, hall⟩
    obtain rfl := first_line_of_log rfl "hello" hline
    exact lookup_eventFields_own hkey false (hall.given key _ (by simp))
  · rintro ⟨fields, hline, hall⟩
    obtain rfl := first_line_of_log rfl "hello" hline
    have hlost := hall.carried "exception" (.text "mine") rfl rfl
    rw [lookup_eventFields_rest (by decide)] at hlost
    have hmine : "" = "mine" := Value.text.inj (Option.some.inj hlost)
    exact absurd hmine (by decide)

end Log

end QueryBinding
