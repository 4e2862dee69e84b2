import VestingContract.Proofs.Run.LogFile

/-!
# Where records are delivered

A program sets up logging, adds fields to the context and writes records, in
any order and any number of times.  Its history tells without handlers and
without open files what each record leads to: a record of a level that the
last setup writes is shown once and is added once to the log file of that
setup.  The console and all files hold what the history tells.
-/

namespace VestingContract

open Stateful

/-- What a program does with logging.  Between its steps the clock goes on,
and the error stream becomes a terminal or is one no longer. -/
inductive LogStep where
  | setUp (levelText : Text) (logFile : Option Text) (json : Bool)
      (fields : List (Value × Value))
  | push (fields : List (Value × Value))
  | record (level : Int) (logger message : Text) (arguments : Arguments)
      (exception : Option Text)
  | moment (clock : Value) (terminal : Bool)

/-- Do a step. -/
def LogStep.perform : LogStep → Action Unit
  | .setUp levelText logFile json fields => do
      let _ ← Action.setUpLogging levelText logFile json fields
  | .push fields => Action.pushContext fields
  | .record level logger message arguments exception =>
      modify fun world => world.emit level
        (world.record level logger message arguments exception)
  | .moment clock terminal =>
      modify fun world => { world with clock := clock, terminal := terminal }

/-- What a console shows for a record; nothing for a record without a
line. -/
def Record.shown (record : Record) (colored : Bool) (context : LogContext) :
    Text :=
  match record.line (.people colored) context with
  | .ok line => line ++ "\n"
  | .error _ => []

/-- What a log file gets for a record; nothing for a record without a line
or whose line has no encoding. -/
def Record.bytes (record : Record) (style : LineStyle)
    (context : LogContext) : List UInt8 :=
  match record.line style context with
  | .ok line =>
      match Utf8.encode (line ++ "\n") with
      | .ok bytes => bytes
      | .error _ => []
  | .error _ => []

/-- What is printed for a record when there is no handler at all. -/
def Record.bare (record : Record) : Text :=
  match record.bareLine with
  | .ok line => line ++ "\n"
  | .error _ => []

/-- A setup of logging: the least level that it writes, whether its console
is in colour, and the place and the style of its log file. -/
structure LogSetup where
  level : Int
  colored : Bool
  file : Option (List Text × LineStyle)

/-- What one record has led to: what was shown, and what was added to the
file at a place. -/
structure Delivery where
  shown : Text
  added : Option (List Text × List UInt8)

namespace LogSetup

/-- The place and the style of the log file of a name. -/
def fileOf (start : FileTree) (json : Bool) :
    Option Text → Option (List Text × LineStyle)
  | none | some [] => none
  | some name => some ((start.absolute (PathName.ofText name)).names,
      if json then .json else .people false)

/-- The setup that is asked for, if there is a level of this name. -/
def ofCall? (start : FileTree) (terminal : Bool) (levelText : Text)
    (logFile : Option Text) (json : Bool) : Option LogSetup :=
  (levelOfName? levelText.toUpper).map fun level =>
    { level := level, colored := terminal, file := fileOf start json logFile }

/-- One line on the console, and one in the log file if there is one. -/
def deliver (setup : LogSetup) (record : Record) (context : LogContext) :
    Delivery where
  shown := record.shown setup.colored context
  added := setup.file.map fun file => (file.1, record.bytes file.2 context)

/-- The handlers of a setup whose log file is open in a tree. -/
def Installs (setup : LogSetup) (tree : FileTree)
    (handlers : List Handler) : Prop :=
  match setup.file with
  | none => handlers = [.console setup.colored]
  | some (place, style) => ∃ identity,
      tree.identity? place = some identity ∧
        handlers = [.console setup.colored, .file identity style]

end LogSetup

/-- What the steps of a program have led to so far. -/
structure LogHistory where
  setup : Option LogSetup
  context : LogContext
  clock : Value
  terminal : Bool
  deliveries : List Delivery

namespace LogHistory

/-- Nothing has been done yet. -/
def begin (start : World) : LogHistory where
  setup := none
  context := start.logging.context
  clock := start.clock
  terminal := start.terminal
  deliveries := []

/-- A record of a level above zero that the setup in force writes is
delivered once.  Before the first setup there is nothing but the bare line of
a warning, if nobody else listens. -/
def deliver (start : World) (history : LogHistory) (level : Int)
    (record : Record) : List Delivery :=
  match history.setup with
  | some setup =>
      if 0 < level ∧ setup.level ≤ level then
        [setup.deliver record history.context]
      else []
  | none =>
      if start.logging.isEnabled level ∧ start.logging.handlers = [] ∧
          warningLevel ≤ level then
        [⟨record.bare, none⟩]
      else []

theorem deliver_of_some {start : World} {history : LogHistory}
    {setup : LogSetup} (inForce : history.setup = some setup) {level : Int}
    {record : Record} :
    history.deliver start level record =
      if 0 < level ∧ setup.level ≤ level then
        [setup.deliver record history.context]
      else [] := by
  rw [deliver, inForce]

theorem deliver_of_none {start : World} {history : LogHistory}
    (noSetup : history.setup = none) {level : Int} {record : Record} :
    history.deliver start level record =
      if start.logging.isEnabled level ∧ start.logging.handlers = [] ∧
          warningLevel ≤ level then
        [⟨record.bare, none⟩]
      else [] := by
  rw [deliver, noSetup]

/-- What one more step leads to. -/
def next (start : World) (history : LogHistory) : LogStep → LogHistory
  | .setUp levelText logFile json fields =>
      { history with
        setup := LogSetup.ofCall? start.files history.terminal levelText
          logFile json
        context := history.context.extend
          ((LogContext.ofPairs? fields).getD []) }
  | .push fields =>
      { history with
        context := history.context.extend
          ((LogContext.ofPairs? fields).getD []) }
  | .record level logger message arguments exception =>
      { history with
        deliveries := history.deliveries ++ history.deliver start level
          { created := history.clock, levelName := levelName level,
            logger := logger, message := message, arguments := arguments,
            exception := exception } }
  | .moment clock terminal =>
      { history with clock := clock, terminal := terminal }

/-- What the steps of a program lead to. -/
def ofSteps (start : World) (steps : List LogStep) : LogHistory :=
  steps.foldl (next start) (begin start)

end LogHistory

namespace World

/-- The console and the files hold what a history tells. -/
structure Holds (start : World) (history : LogHistory) (world : World) :
    Prop where
  errors : world.errors =
    start.errors ++ history.deliveries.flatMap Delivery.shown
  files : start.files.HasGrown
    (history.deliveries.filterMap Delivery.added) world.files
  context : world.logging.context = history.context
  clock : world.clock = history.clock
  terminal : world.terminal = history.terminal

/-- The console and the files hold what a history tells.  The handlers are
those of the beginning, in their order, and those of the last setup, which is
the one that decides about levels. -/
structure HasDelivered (start : World) (history : LogHistory)
    (world : World) : Prop extends Holds start history world where
  level : world.logging.level =
    (history.setup.map LogSetup.level).getD start.logging.level
  handlers : ∃ installed,
    world.logging.handlers = start.logging.handlers ++ installed ∧
      match history.setup with
      | none => installed = []
      | some setup => setup.Installs world.files installed

section Records

variable {start world : World} {history : LogHistory} {record : Record}

theorem deliver_console (record : Record) (world : World) (colored : Bool) :
    world.deliver record (.console colored) =
      world.report (record.shown colored world.logging.context) := by
  rw [deliver, Record.shown]
  cases record.line (.people colored) world.logging.context with
  | ok line => rfl
  | error fault =>
      rw [report, List.append_nil]

theorem deliver_file (record : Record) (world : World) (identity : Nat)
    (style : LineStyle) :
    world.deliver record (.file identity style) =
      { world with
        files := world.files.append identity
          (record.bytes style world.logging.context) } := by
  rw [deliver, Record.bytes]
  cases record.line style world.logging.context with
  | error fault =>
      simp only [FileTree.append_nil]
  | ok line =>
      cases encoded : Utf8.encode (line ++ "\n") with
      | ok bytes => simp only [encoded]
      | error fault => simp only [encoded, FileTree.append_nil]

theorem deliverAll_foreign {handlers : List Handler}
    (foreign : ∀ handler ∈ handlers, handler.isInstalled = false) :
    handlers.foldl (deliver record) world = world := by
  induction handlers with
  | nil => rfl
  | cons handler handlers ih =>
      obtain ⟨first, others⟩ := List.forall_mem_cons.mp foreign
      cases handler with
      | console colored => cases first
      | file identity style => cases first
      | foreign identity => exact ih others

/-- Without handlers of a setup a record is printed as a bare line at
most. -/
theorem emit_of_foreign
    (foreign : ∀ handler ∈ world.logging.handlers,
      handler.isInstalled = false) (level : Int) :
    world.emit level record =
      if world.logging.isEnabled level ∧ world.logging.handlers = [] ∧
          warningLevel ≤ level then
        world.report record.bare
      else world := by
  rw [emit, deliverAll_foreign foreign]
  by_cases isEnabled : world.logging.isEnabled level = true
  · by_cases alone : world.logging.handlers = []
    · by_cases isWarning : warningLevel ≤ level
      · cases spelled : record.bareLine with
        | ok line =>
            simp [isEnabled, alone, isWarning, spelled, Record.bare]
        | error fault =>
            simp [isEnabled, alone, isWarning, spelled, Record.bare, report]
      · simp [isEnabled, alone, isWarning]
    · simp [isEnabled, alone]
  · simp [isEnabled]

theorem emit_of_ne_nil (attached : world.logging.handlers ≠ [])
    (level : Int) :
    world.emit level record =
      if world.logging.isEnabled level then
        world.logging.handlers.foldl (deliver record) world
      else world := by
  rw [emit]
  by_cases isEnabled : world.logging.isEnabled level = true <;>
    simp [isEnabled, attached]

/-- A delivery that is carried out behind all others. -/
theorem Holds.add (holds : start.Holds history world) (delivery : Delivery)
    {files : FileTree}
    (grown : start.files.HasGrown
      (history.deliveries.filterMap Delivery.added ++ delivery.added.toList)
      files) :
    start.Holds
      { history with deliveries := history.deliveries ++ [delivery] }
      { world with
        errors := world.errors ++ delivery.shown
        files := files } := by
  refine ⟨?_, ?_, holds.context, holds.clock, holds.terminal⟩
  · rw [List.flatMap_append, List.flatMap_singleton, ← List.append_assoc,
      ← holds.errors]
  · rw [List.filterMap_append]
    cases added : delivery.added with
    | none =>
        rw [added] at grown
        rw [List.filterMap_cons_none added]
        exact grown
    | some addition =>
        rw [added] at grown
        rw [List.filterMap_cons_some added]
        exact grown

/-- The handlers of a setup show a record once and add it once to their
file. -/
theorem Holds.deliverAll (holds : start.Holds history world)
    (record : Record) {setup : LogSetup} {installed : List Handler}
    (installs : setup.Installs world.files installed) :
    start.Holds { history with
        deliveries := history.deliveries ++
          [setup.deliver record history.context] }
        (installed.foldl (deliver record) world) ∧
      setup.Installs (installed.foldl (deliver record) world).files
        installed ∧
      (installed.foldl (deliver record) world).logging = world.logging := by
  have files := holds.files
  have adds := @Holds.add _ _ _ holds (setup.deliver record history.context)
  unfold LogSetup.Installs at installs ⊢
  cases file : setup.file with
  | none =>
      simp only [file] at installs
      subst installs
      rw [List.foldl_cons, List.foldl_nil, deliver_console, holds.context]
      refine ⟨adds ?_, rfl, rfl⟩
      rw [LogSetup.deliver, file, Option.map_none, Option.toList_none,
        List.append_nil]
      exact files
  | some target =>
      obtain ⟨place, style⟩ := target
      simp only [file] at installs
      obtain ⟨identity, here, rfl⟩ := installs
      have delivered :
          [Handler.console setup.colored, .file identity style].foldl
            (deliver record) world =
          { world with
            errors := world.errors ++
              record.shown setup.colored history.context
            files := world.files.append identity
              (record.bytes style history.context) } := by
        rw [List.foldl_cons, List.foldl_cons, List.foldl_nil,
          deliver_console, deliver_file, report, holds.context]
      rw [delivered]
      refine ⟨adds ?_, ⟨identity, ?_, rfl⟩, rfl⟩
      · rw [LogSetup.deliver, file, Option.map_some, Option.toList_some]
        exact files.append here _
      · rw [FileTree.identity?_append, here]

/-- A record is delivered just as the history tells. -/
theorem HasDelivered.emit (delivered : start.HasDelivered history world)
    (foreign : ∀ handler ∈ start.logging.handlers,
      handler.isInstalled = false) (level : Int) (record : Record) :
    start.HasDelivered { history with
        deliveries := history.deliveries ++
          history.deliver start level record }
      (world.emit level record) := by
  obtain ⟨inForce, context, clock, terminal, deliveries⟩ := history
  have levelEq := delivered.level
  obtain ⟨installed, attached, installs⟩ := delivered.handlers
  cases inForce with
  | none =>
      -- All handlers are foreign ones, so at most a bare line is printed.
      simp only at installs
      rw [Option.map_none, Option.getD_none] at levelEq
      subst installs
      rw [List.append_nil] at attached
      have enabled : world.logging.isEnabled level =
          start.logging.isEnabled level := by
        rw [LogState.isEnabled, LogState.isEnabled, levelEq]
      rw [emit_of_foreign (attached ▸ foreign),
        LogHistory.deliver_of_none rfl, enabled, attached]
      split
      · have holds := delivered.add ⟨record.bare, none⟩
          (by simpa using delivered.files)
        refine ⟨holds, levelEq, [], ?_, rfl⟩
        rw [List.append_nil]
        exact attached
      · rw [List.append_nil]
        exact delivered
  | some setup =>
      -- The foreign handlers come first and write elsewhere.
      simp only at installs
      rw [Option.map_some, Option.getD_some] at levelEq
      have nonempty : world.logging.handlers ≠ [] := by
        rw [attached]
        unfold LogSetup.Installs at installs
        split at installs
        · simp [installs]
        · obtain ⟨identity, -, rfl⟩ := installs
          simp
      have enabled : world.logging.isEnabled level = true ↔
          0 < level ∧ setup.level ≤ level := by
        rw [LogState.isEnabled, levelEq, Bool.and_eq_true,
          decide_eq_true_iff, decide_eq_true_iff]
      rw [emit_of_ne_nil nonempty, LogHistory.deliver_of_some rfl]
      simp only [enabled]
      split
      · rw [attached, List.foldl_append, deliverAll_foreign foreign]
        obtain ⟨holds, stillInstalls, sameLogging⟩ :=
          delivered.deliverAll record installs
        refine ⟨holds, ?_, installed, ?_, stillInstalls⟩
        · rw [sameLogging]
          exact levelEq
        · rw [sameLogging]
          exact attached
      · rw [List.append_nil]
        exact delivered

end Records

/-- The console and the files hold what a history tells, and no handler of a
setup is attached. -/
structure HoldsAlone (start : World) (history : LogHistory) (world : World) :
    Prop extends Holds start history world where
  alone : world.logging.handlers = start.logging.handlers

theorem Holds.withFiles {start world : World} {history : LogHistory}
    (holds : start.Holds history world) {files : FileTree}
    (grown : start.files.HasGrown
      (history.deliveries.filterMap Delivery.added) files) :
    start.Holds history { world with files := files } :=
  ⟨holds.errors, grown, holds.context, holds.clock, holds.terminal⟩

end World

section Steps

variable {start : World} {history : LogHistory}

/-- Opening a log file loses nothing, and the file is the one at the place
that the path spells. -/
theorem ensures_openLogFile_holds (path : PathName) :
    Ensures (start.HoldsAlone history) (Action.openLogFile path)
      (fun identity world => start.HoldsAlone history world ∧
        world.files.identity? (start.files.absolute path).names =
          some identity)
      (fun _ _ => True) := by
  rintro world ⟨holds, alone⟩ result after ends
  obtain ⟨base, wellFormed, only, cases⟩ :=
    run_openLogFile_cases holds.files.wellFormed ends
  rcases cases with ⟨failure, rfl, rfl⟩ | ⟨identity, files, rfl, opened, rfl⟩
  · trivial
  · have grownBase := holds.files.of_onlyDirectories wellFormed only
    obtain ⟨grown, here⟩ := grownBase.openToAppend opened
    rw [grownBase.directories.absolute_eq] at here
    exact ⟨⟨holds.withFiles grown, alone⟩, here⟩

theorem ensures_fileHandler_holds (logFile : Option Text) (json : Bool) :
    Ensures (start.HoldsAlone history) (Action.fileHandler logFile json)
      (fun handlers world => start.HoldsAlone history world ∧
        ∀ level colored, LogSetup.Installs
          ⟨level, colored, LogSetup.fileOf start.files json logFile⟩
          world.files (.console colored :: handlers))
      (fun _ _ => True) := by
  cases logFile with
  | none => exact .pure fun world holds => ⟨holds, fun _ _ => rfl⟩
  | some name =>
      cases name with
      | nil => exact .pure fun world holds => ⟨holds, fun _ _ => rfl⟩
      | cons first rest =>
          refine (ensures_openLogFile_holds
            (PathName.ofText (first :: rest))).bind fun identity => ?_
          apply Ensures.pure
          rintro world ⟨holds, here⟩
          exact ⟨holds, fun _ _ => ⟨identity, here, rfl⟩⟩

theorem ensures_install_delivers (setup : LogSetup)
    (handlers : List Handler) :
    Ensures (fun world => start.HoldsAlone history world ∧
        setup.Installs world.files handlers)
      (Action.onLogging fun state => state.install setup.level handlers)
      (fun _ => start.HasDelivered { history with setup := some setup })
      (fun _ _ => True) := by
  apply Ensures.modify
  rintro world ⟨⟨holds, alone⟩, installs⟩
  refine ⟨⟨holds.errors, holds.files, holds.context, holds.clock,
    holds.terminal⟩, rfl, handlers, ?_, installs⟩
  exact congrArg (· ++ handlers) alone

theorem ensures_pushContext_delivers (fields : List (Value × Value)) :
    Ensures (start.HasDelivered history) (Action.pushContext fields)
      (fun _ => start.HasDelivered { history with
        context := history.context.extend
          ((LogContext.ofPairs? fields).getD []) })
      (fun _ _ => True) := by
  unfold Action.pushContext
  split
  · exact .throw fun _ _ => trivial
  · next context named =>
      rw [named]
      apply Ensures.modify
      rintro world ⟨holds, levelEq, handlers⟩
      refine ⟨⟨holds.errors, holds.files, ?_, holds.clock, holds.terminal⟩,
        levelEq, handlers⟩
      exact congrArg (LogContext.extend · context) holds.context

variable (foreign : ∀ handler ∈ start.logging.handlers,
  handler.isInstalled = false)

include foreign

/-- A setup takes the handlers of the one before away and none else. -/
theorem ensures_withoutInstalled_holds :
    Ensures (start.HasDelivered history)
      (Action.onLogging LogState.withoutInstalled)
      (fun _ => start.HoldsAlone history) (fun _ _ => True) := by
  apply Ensures.modify
  rintro world ⟨holds, -, installed, attached, installs⟩
  refine ⟨⟨holds.errors, holds.files, holds.context, holds.clock,
    holds.terminal⟩, ?_⟩
  have keeps : start.logging.handlers.filter (!·.isInstalled) =
      start.logging.handlers := by
    refine List.filter_eq_self.mpr fun handler member => ?_
    rw [foreign handler member, Bool.not_false]
  have removes : installed.filter (!·.isInstalled) = [] := by
    split at installs
    · rw [installs, List.filter_nil]
    · unfold LogSetup.Installs at installs
      split at installs
      · rw [installs]
        rfl
      · obtain ⟨identity, -, rfl⟩ := installs
        rfl
  change world.logging.handlers.filter (!·.isInstalled) = _
  rw [attached, List.filter_append, keeps, removes, List.append_nil]

theorem ensures_setUpLogging_delivers (levelText : Text)
    (logFile : Option Text) (json : Bool) (fields : List (Value × Value)) :
    Ensures (start.HasDelivered history)
      (Action.setUpLogging levelText logFile json fields)
      (fun _ => start.HasDelivered
        (history.next start (.setUp levelText logFile json fields)))
      (fun _ _ => True) := by
  have pushes : Ensures (start.HasDelivered { history with
        setup := LogSetup.ofCall? start.files history.terminal levelText
          logFile json })
      (Action.pushContext fields)
      (fun _ => start.HasDelivered
        (history.next start (.setUp levelText logFile json fields)))
      (fun _ _ => True) :=
    ensures_pushContext_delivers fields
  refine ensures_setUpLogging_of_stages (fun _ _ => trivial)
    (ensures_withoutInstalled_holds foreign)
    (ensures_fileHandler_holds logFile json) ?_ pushes ?_
  · intro level current handlers known isRemoved
    have asked : LogSetup.ofCall? start.files history.terminal levelText
        logFile json =
        some ⟨level, history.terminal,
          LogSetup.fileOf start.files json logFile⟩ := by
      rw [LogSetup.ofCall?, known, Option.map_some]
    rw [asked, isRemoved.terminal]
    intro world holds
    exact ensures_install_delivers _ _ world
      ⟨holds.1, holds.2 level history.terminal⟩
  · apply Ensures.modify
    rintro world ⟨holds, levelEq, handlers⟩
    exact ⟨⟨holds.errors, holds.files, holds.context, holds.clock,
      holds.terminal⟩, levelEq, handlers⟩

/-- One step leads to what its history tells. -/
theorem ensures_perform_delivers (step : LogStep) :
    Ensures (start.HasDelivered history) step.perform
      (fun _ => start.HasDelivered (history.next start step))
      (fun _ _ => True) := by
  cases step with
  | setUp levelText logFile json fields =>
      exact (ensures_setUpLogging_delivers foreign levelText logFile json
        fields).bind fun _ => .pure fun _ delivered => delivered
  | push fields => exact ensures_pushContext_delivers fields
  | record level logger message arguments exception =>
      apply Ensures.modify
      intro world delivered
      have recordEq : world.record level logger message arguments exception =
          ⟨history.clock, levelName level, logger, message, arguments,
            exception⟩ := by
        rw [World.record, delivered.clock]
      rw [recordEq]
      exact delivered.emit foreign level _
  | moment clock terminal =>
      apply Ensures.modify
      rintro world ⟨holds, levelEq, handlers⟩
      exact ⟨⟨holds.errors, holds.files, holds.context, rfl, rfl⟩, levelEq,
        handlers⟩

theorem ensures_performAll_delivers (steps : List LogStep) :
    Ensures (start.HasDelivered history) (steps.forM LogStep.perform)
      (fun _ => start.HasDelivered
        (steps.foldl (LogHistory.next start) history))
      (fun _ _ => True) := by
  -- The history is the invariant, so it is general: the later steps begin with
  -- what the first one has led to.
  induction steps generalizing history with
  | nil => exact .pure fun _ delivered => delivered
  | cons step steps ih =>
      exact (ensures_perform_delivers foreign step).bind fun _ => ih

end Steps

theorem World.hasDelivered_begin {world : World}
    (wellFormed : world.files.WellFormed) :
    world.HasDelivered (LogHistory.begin world) world := by
  refine ⟨⟨?_, .refl wellFormed, rfl, rfl, rfl⟩, rfl, [], ?_, rfl⟩
  · exact (List.append_nil _).symm
  · exact (List.append_nil _).symm

/-- Over any successful steps, in any order, every record of a level above
zero that the last setup writes is shown once on the console and added once
to the log file of that setup, and it is written nowhere else.  Every file is
its content of the beginning with the lines that were delivered to it, in
order; the handlers that others have attached stay, in their order, before
those of the last setup. -/
theorem logging_delivers_once {start after : World} {steps : List LogStep}
    (wellFormed : start.files.WellFormed)
    (foreign : ∀ handler ∈ start.logging.handlers,
      handler.isInstalled = false)
    (succeeds : (steps.forM LogStep.perform).run start = (.ok ⟨⟩, after)) :
    start.HasDelivered (LogHistory.ofSteps start steps) after :=
  ensures_performAll_delivers foreign steps start
    (World.hasDelivered_begin wellFormed) _ _ succeeds

section Sessions

/-- A world with a log file of an earlier program and with a handler that
somebody else has attached. -/
def listenedWorld : World where
  files := ⟨[([("app.log" : Text)], .file 0 [111, 108, 100, 10])], [], 1⟩
  logging := { LogState.initial with handlers := [.foreign 7] }
  output := []
  errors := []
  uses := []
  clock := .int 0
  terminal := false
  shipped := ⟨1, []⟩

/-- The log file is left for another one and is opened again. -/
def reopeningSteps : List LogStep :=
  [.record 30 "app" "early" (.sequence []) none,
    .setUp "INFO" (some "app.log") false [],
    .record 20 "app" "first" (.sequence []) none,
    .record 10 "app" "unheard" (.sequence []) none,
    .push [(.text "run", .int 1)],
    .setUp "DEBUG" (some "other.log") true [],
    .record 10 "app" "second" (.sequence []) none,
    .moment (.int 1) true,
    .setUp "info" (some "./app.log") false [],
    .record 20 "app" "third" (.sequence []) none]

/-- Three of five records are delivered over three setups. -/
theorem logging_delivers_once_reopened :
    ∃ after,
      (reopeningSteps.forM LogStep.perform).run listenedWorld =
        (.ok ⟨⟩, after) ∧
      listenedWorld.HasDelivered
        (LogHistory.ofSteps listenedWorld reopeningSteps) after ∧
      (LogHistory.ofSteps listenedWorld reopeningSteps).deliveries.length =
        3 := by
  have wellFormed : listenedWorld.files.WellFormed := by
    apply FileTree.wellFormed_of_root rfl
    · intro entry member
      obtain rfl := List.mem_singleton.mp member
      exact ⟨_, rfl, by decide⟩
    · intro entry member identity content same
      obtain rfl := List.mem_singleton.mp member
      cases same
      decide
  have foreign : ∀ handler ∈ listenedWorld.logging.handlers,
      handler.isInstalled = false := by decide
  have ends : ((reopeningSteps.forM LogStep.perform).run
      listenedWorld).1 = .ok ⟨⟩ := by decide +kernel
  rcases succeeds : (reopeningSteps.forM LogStep.perform).run
    listenedWorld with ⟨result, after⟩
  rw [succeeds] at ends
  subst ends
  exact ⟨after, rfl, logging_delivers_once wellFormed foreign succeeds,
    by decide +kernel⟩

/-- A record of level zero is written nowhere, although the setup in force
has this level and the record has a line. -/
theorem setUpLogging_leaves_out_record :
    ∃ handlers between after,
      (Action.setUpLogging "NOTSET" none false []).run listenedWorld =
        (.ok handlers, between) ∧
      between.logging.level ≤ 0 ∧
      (LogStep.record 0 "app" "x" (.sequence []) none).perform.run between =
        (.ok ⟨⟩, after) ∧
      (between.record 0 "app" "x" (.sequence []) none).shown false
        between.logging.context ≠ [] ∧
      after.errors = between.errors := by
  refine ⟨_, _, _, rfl, ?_, rfl, ?_, ?_⟩ <;> decide +kernel

end Sessions

end VestingContract
