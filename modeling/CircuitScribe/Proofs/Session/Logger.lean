import CircuitScribe.Proofs.Session.Generate

namespace CircuitScribe

/-- A name by which a level is chosen is no reference to something else. -/
theorem LevelReference.resolve_named {name : String} {n : Int} (h : LogLevel.named.get? name = some n) :
    resolve (.str name) = .str name := by
  have hmem : (name, n) ∈ LogLevel.named := Table.mem_of_get?_eq_some h
  simp only [LogLevel.named, List.mem_cons, Prod.mk.injEq, List.not_mem_nil, or_false] at hmem
  rcases hmem with ⟨rfl, _⟩ | ⟨rfl, _⟩ | ⟨rfl, _⟩ | ⟨rfl, _⟩ | ⟨rfl, _⟩ | ⟨rfl, _⟩ | ⟨rfl, _⟩ | ⟨rfl, _⟩ <;> rfl

/-- Each level that the settings can choose is one that the log has. -/
theorem Severity.get?_named (severity : Severity) :
    LogLevel.named.get? severity.name = some severity.number := by
  cases severity <;> decide

namespace Logger

variable {l l' : Logger} {settings : Except Fault Settings} {v : Value} {level : LogLevel}

theorem foldl_erase_append (handlers rest : List Handler) :
    handlers.foldl List.erase (handlers ++ rest) = rest := by
  induction handlers with
  | nil => rfl
  | cons h handlers ih =>
    rw [List.foldl_cons, List.cons_append, List.erase_cons_head]
    exact ih

/-- All handlers that are attached are taken away, however many there are. -/
theorem unset_eq (l : Logger) : l.unset = { l with handlers := [] } := by
  have hnone := foldl_erase_append l.handlers []
  rw [List.append_nil] at hnone
  rw [unset, hnone]

/-- One handler takes the place of those before. -/
theorem handlers_of_set (h : l.set settings v = .ok l') : l'.handlers = [.standard] := by
  simp only [set, Fault.bind_eq_ok_iff] at h
  obtain ⟨_, _, _, _, ⟨⟩⟩ := h
  rw [unset_eq]
  rfl

theorem set_of_chooseLevel {asked : Value} (hasked : askedLevel settings v = .ok asked)
    (h : l.chooseLevel asked = .ok level) : l.set settings v = .ok ⟨level, [.standard]⟩ := by
  simp only [set, unset_eq, Fault.bind_eq_ok_iff]
  exact ⟨asked, hasked, level, h, rfl⟩

theorem set_number (h : LogLevel.ofNumber? v = some level) :
    l.set settings v = .ok ⟨level, [.standard]⟩ := by
  cases v <;> simp only [LogLevel.ofNumber?, Option.some.injEq, reduceCtorEq] at h
  all_goals
    subst h
    exact set_of_chooseLevel rfl rfl

theorem chooseLevel_named {name : String} {n : Int} (h : LogLevel.named.get? name = some n) :
    l.chooseLevel (.str name) = .ok (.number n) := by
  simp only [chooseLevel, LevelReference.resolve_named h, h]

theorem set_named {name : String} {n : Int} (h : LogLevel.named.get? name = some n) :
    l.set settings (.str name) = .ok ⟨.number n, [.standard]⟩ :=
  set_of_chooseLevel rfl (chooseLevel_named h)

/-- Without a level, setting the log succeeds whenever there are settings, and fails as they do. -/
theorem set_null (l : Logger) (settings : Except Fault Settings) :
    l.set settings .null =
      settings.map fun t => ⟨.number (t.logLevel?.getD .info).number, [.standard]⟩ := by
  cases settings with
  | error fault => rfl
  | ok t =>
    cases hlevel : t.logLevel? with
    | none =>
      have hasked : askedLevel (.ok t) .null = .ok (.int Severity.info.number) := by
        simp [askedLevel, Except.map, hlevel]
      simp only [set_of_chooseLevel hasked rfl, Except.map, hlevel, Option.getD_none]
    | some severity =>
      have hasked : askedLevel (.ok t) .null = .ok (.str severity.name) := by
        simp [askedLevel, Except.map, hlevel]
      simp only [set_of_chooseLevel hasked (chooseLevel_named severity.get?_named), Except.map, hlevel,
        Option.getD_some]

/-- A log with at most one handler writes no message twice. -/
theorem length_writings_le (h : l.handlers.length ≤ 1) (m : Message) : (l.writings m).length ≤ 1 := by
  have hreached : (l.reached m.source).length ≤ 1 := by
    unfold reached
    split
    · simp
    · split
      · exact h
      · simp
  unfold writings
  split
  · exact Nat.le_trans (List.length_filterMap_le _ _) hreached
  · simp

end Logger

namespace Session

variable {s : Session} {a : Action}

/-- The log is changed by the two calls for it alone. -/
theorem perform_logger (hset : ∀ level, a ≠ .setLogger level) (hunset : a ≠ .unsetLogger) :
    (s.perform a).1.logger = s.logger :=
  (s.perform_advance a).logger hset hunset

theorem perform_setLogger {v : Value} {l : Logger} (h : s.logger.set s.settings v = .ok l) :
    (∃ r, (s.perform (.setLogger v)).2.result = .ok r) ∧ (s.perform (.setLogger v)).1.logger = l := by
  simp only [perform, act, h, answer, shareReply]
  exact ⟨⟨_, rfl⟩, rfl⟩

/-- A set that is refused leaves all as it is. -/
theorem perform_setLogger_error {v : Value} {fault : Fault} (h : s.logger.set s.settings v = .error fault) :
    s.perform (.setLogger v) = (s, { result := .error fault }) := by
  simp only [perform, act, h]
  rfl

theorem perform_unsetLogger (s : Session) :
    (∃ r, (s.perform .unsetLogger).2.result = .ok r) ∧
      (s.perform .unsetLogger).1.logger = s.logger.unset :=
  ⟨⟨_, rfl⟩, rfl⟩

/-- What a call has done to the log, going by its reply: a set that succeeds has given it a
    handler, and an unset has left it without. -/
def switched? (a : Action) (reply : Reply) : Option Bool :=
  match a, reply.result with
  | .setLogger _, .ok _ => some true
  | .unsetLogger, .ok _ => some false
  | _, _ => none

/-- The sets and unsets of the log in a run that have succeeded. -/
def switches (s : Session) (actions : List Action) : List Bool :=
  (actions.zip (s.run actions).2).filterMap fun x => switched? x.1 x.2

/-- The handlers of a log that has last been set or unset, if it has been. -/
def handlersAfter (before : List Handler) : Option Bool → List Handler
  | some true => [.standard]
  | some false => []
  | none => before

theorem perform_handlers (s : Session) (a : Action) :
    (s.perform a).1.logger.handlers =
      handlersAfter s.logger.handlers (switched? a (s.perform a).2) := by
  cases a with
  | setLogger v =>
    cases hset : s.logger.set s.settings v with
    | ok l =>
      obtain ⟨⟨r, hr⟩, hlogger⟩ := perform_setLogger hset
      simp only [hlogger, Logger.handlers_of_set hset, switched?, hr, handlersAfter]
    | error fault =>
      rw [perform_setLogger_error hset]
      rfl
  | unsetLogger =>
    rw [(s.perform_unsetLogger).2, Logger.unset_eq]
    rfl
  | _ => rw [perform_logger (by simp) (by simp)]; rfl

theorem run_handlers (s : Session) (actions : List Action) :
    (s.run actions).1.logger.handlers =
      handlersAfter s.logger.handlers (s.switches actions).getLast? := by
  induction actions generalizing s with
  | nil => rfl
  | cons a rest ih =>
    have hstep := s.perform_handlers a
    have hrest := ih (s.perform a).1
    have hswitches : s.switches (a :: rest) =
        (switched? a (s.perform a).2).toList ++ (s.perform a).1.switches rest := by
      rw [switches, replies_cons, List.zip_cons_cons, List.filterMap_cons]
      cases switched? a (s.perform a).2 <;> rfl
    -- A later switch of the rest counts, and the step only if there is none.
    rw [run_cons, hrest, hstep, hswitches, List.getLast?_append]
    cases ((s.perform a).1.switches rest).getLast? with
    | none => cases switched? a (s.perform a).2 <;> rfl
    | some last => cases last <;> rfl

/-- The log goes by the latest set or unset that has succeeded. It has one handler after a set and
    none otherwise, so that no message is written twice. A set with a number, with the name of
    a level or, whenever there are settings, with nothing succeeds and leaves the log at that
    level; one that is refused leaves all as it is. An unset keeps the level, and nothing else
    changes the log. -/
theorem run_logger (actions : List Action) :
    let s := (run {} actions).1
    (s.logger.handlers = if (switches {} actions).getLast? = some true then [.standard] else []) ∧
    (∀ m, (s.logger.writings m).length ≤ 1) ∧
    (∀ v level, LogLevel.ofNumber? v = some level →
      (∃ r, (s.perform (.setLogger v)).2.result = .ok r) ∧
      (s.perform (.setLogger v)).1.logger.level = level) ∧
    (∀ name n, LogLevel.named.get? name = some n →
      (∃ r, (s.perform (.setLogger (.str name))).2.result = .ok r) ∧
      (s.perform (.setLogger (.str name))).1.logger.level = .number n) ∧
    (∀ settings, s.settings = .ok settings →
      (∃ r, (s.perform (.setLogger .null)).2.result = .ok r) ∧
      (s.perform (.setLogger .null)).1.logger.level =
        .number (settings.logLevel?.getD .info).number) ∧
    (∀ fault, s.settings = .error fault → (s.perform (.setLogger .null)).2.result = .error fault) ∧
    (∀ v fault, (s.perform (.setLogger v)).2.result = .error fault → (s.perform (.setLogger v)).1 = s) ∧
    (s.perform .unsetLogger).1.logger.level = s.logger.level ∧
    (∀ a, (∀ v, a ≠ .setLogger v) → a ≠ .unsetLogger → (s.perform a).1.logger = s.logger) := by
  intro s
  have hhandlers : s.logger.handlers =
      if (switches {} actions).getLast? = some true then [.standard] else [] := by
    have hrun := run_handlers {} actions
    rw [hrun]
    cases (switches {} actions).getLast? with
    | none => rfl
    | some last => cases last <;> rfl
  have hset {v : Value} {l : Logger} (h : s.logger.set s.settings v = .ok l) :
      (∃ r, (s.perform (.setLogger v)).2.result = .ok r) ∧
        (s.perform (.setLogger v)).1.logger.level = l.level := by
    obtain ⟨hresult, hlogger⟩ := perform_setLogger h
    exact ⟨hresult, by rw [hlogger]⟩
  refine ⟨hhandlers, Logger.length_writings_le ?_, fun v level hlevel => hset (Logger.set_number hlevel),
    fun name n hname => hset (Logger.set_named hname), fun settings hsettings => ?_,
    fun fault hsettings => ?_, fun v fault hfault => ?_, ?_, fun a => perform_logger⟩
  · rw [hhandlers]
    split <;> simp
  · refine hset (l := ⟨_, [.standard]⟩) ?_
    rw [Logger.set_null, hsettings]
    rfl
  · have herror : s.logger.set s.settings .null = .error fault := by
      rw [Logger.set_null, hsettings]
      rfl
    rw [perform_setLogger_error herror]
  · cases hset : s.logger.set s.settings v with
    | ok l =>
      obtain ⟨⟨r, hr⟩, _⟩ := perform_setLogger hset
      rw [hr] at hfault
      cases hfault
    | error fault => rw [perform_setLogger_error hset]
  · rw [s.perform_unsetLogger.2, Logger.unset_eq]

/-- A level that is refused after one that is not leaves the handler in place. -/
theorem run_logger_refused :
    let actions : List Action := [.unsetLogger, .setLogger (.int 10), .setLogger (.str "LOUD")]
    (run {} actions).1.logger.handlers = [.standard] ∧
      ((run {} actions).1.perform (.setLogger (.str "WARN"))).1.logger.level = .number 30 := by
  intro actions
  have hlaw := run_logger actions
  have hswitches : switches {} actions = [false, true] := rfl
  exact ⟨hlaw.1.trans (by rw [hswitches]; rfl), (hlaw.2.2.2.1 "WARN" 30 (by decide)).2⟩

end Session

end CircuitScribe
