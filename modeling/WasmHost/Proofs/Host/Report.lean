import Mathlib
import WasmHost.Proofs.Host.Coupling
import WasmHost.Proofs.Host.Trace

/-!
# The report of the program

The program shows a run in three ways: by what it writes, by its log and by its exit code. This file
proves that the three agree with each other and with a run of the library on the same artifact,
whose numbers are recorded. `Summary` lists the five ways in which a run ends, with the exit code
that goes with each and the lines of the log as they read.

A recorder and a console answer alike, so the run of the program and the one of the library are
coupled from beginning to end. Without a ceiling no event of the chatter is shown in the log.
-/

namespace WasmHost

open Instantiation

section Rendering

/-- The console shows the numbers that the recorder holds, and both accept every further number. -/
structure Recorder.ShownOn (recorder : Recorder) (console : Console) : Prop where
  unlimited : recorder.capacity = none
  works : console.fault = none
  written : console.written = recorder.rendered

theorem Recorder.answers_shownOn : Sink.Answers Recorder.ShownOn := by
  intro recorder console shown value
  refine ⟨none, recorder.extend [value],
    { console with written := console.written ++ decimalLine value },
    recorder.emit_of_unlimited value shown.unlimited, ?_, ?_⟩
  · simp only [Sink.emit, shown.works]
  · refine ⟨shown.unlimited, shown.works, ?_⟩
    simp [Recorder.rendered, Recorder.extend, shown.written]

theorem Recorder.emitAll_of_unlimited (recorder : Recorder) (free : recorder.capacity = none)
    (values : List Int32) : Sink.emitAll recorder values = recorder.extend values := by
  induction values generalizing recorder with
  | nil => exact recorder.extend_nil.symm
  | cons value rest ih =>
      calc
        Sink.emitAll recorder (value :: rest)
            = Sink.emitAll (Sink.emit recorder value).2 rest := rfl
        _ = Sink.emitAll (recorder.extend [value]) rest := by
          rw [recorder.emit_of_unlimited value free]
        _ = (recorder.extend [value]).extend rest := ih _ free
        _ = recorder.extend (value :: rest) := recorder.extend_extend [value] rest

/-- The digits of a number are on one line. -/
theorem newline_not_mem_digits (n : Nat) : '\n' ∉ n.repr.toList := by
  intro newline_mem
  have digit : ('\n').isDigit = true := by
    apply Nat.isDigit_of_mem_toDigits (n := n) (b := 10)
    · decide
    · decide
    · simpa [Nat.repr] using newline_mem
  exact absurd digit (by decide)

theorem count_newline_decimalLine (value : Int32) : (decimalLine value).toList.count '\n' = 1 := by
  have digits : '\n' ∉ value.toInt.repr.toList := by
    rcases value.toInt with n | n
    · exact newline_not_mem_digits n
    · intro newline_mem
      have later : '\n' ∈ (n + 1).repr.toList := by
        simpa [Int.repr] using newline_mem
      exact newline_not_mem_digits (n + 1) later
  simp [decimalLine, List.count_eq_zero.mpr digits]

theorem Recorder.count_newline_rendered (recorder : Recorder) :
    recorder.rendered.toList.count '\n' = recorder.values.size := by
  rw [rendered, String.toList_join, ← Array.length_toList]
  induction recorder.values.toList with
  | nil => rfl
  | cons value rest ih =>
      rw [List.map_cons, List.flatMap_cons, List.count_append, count_newline_decimalLine, ih,
        List.length_cons, Nat.add_comm]

end Rendering

section Coupled

variable [Engine] {σ τ : Type} [Sink σ] [Sink τ]

/-- A run with the one kind of sink is a run with the other one, if the sinks answer alike. -/
theorem agree_run {sinks : σ → τ → Prop} (answers : Sink.Answers sinks) (before : Array Event)
    (steps : Nat) (files : Files) (path : String) (config : Config) :
    (Coupling.ofSinks answers before).Agree (run steps files path config)
      (run steps files path config) := by
  have parts := Coupling.Agree.compositional (Coupling.ofSinks answers before)
  rw [run_eq, run_eq]
  refine .bind (parts.loadArtifact files path) fun artifact => ⟨fun _ parted => parted.elim, ?_⟩
  intro host other hosts
  rw [outcome_runBytes, outcome_runBytes]
  have fresh :=
    Coupling.agree_runFresh (Coupling.ofSinks answers before) steps config artifact.bytes
  exact fresh.same (Host.Matches.fresh config.limits hosts)

end Coupled

/-- The host of a run whose numbers are recorded. -/
def Host.recording : Host Recorder :=
  { sink := {} }

/-- The run of the program, and the run of the library that records its numbers. -/
theorem exists_recorded_run [Engine] (steps : Nat) (files : Files) (directory : String) :
    ∃ result, ∃ recorded : Host Recorder, ∃ shown : Host Console,
      (runInstalled steps files directory).outcome .recording = (result, recorded) ∧
        (runInstalled steps files directory).outcome { sink := {} } = (result, shown) ∧
        recorded.events = shown.events ∧ recorded.sink.ShownOn shown.sink := by
  have hosts : Host.recording.Matches Recorder.ShownOn #[] { sink := ({} : Console) } :=
    ⟨rfl, rfl, rfl, rfl, rfl, rfl⟩
  have agree := agree_run Recorder.answers_shownOn #[] steps files
    (Artifact.pathIn directory ({} : Config).artifactFileName) {}
  rcases Host.Matches.outcome Recorder.answers_shownOn agree hosts with
    ⟨result, recorded, shown, outcome, outcomeShown, matched⟩
  exact ⟨result, recorded, shown, outcome, outcomeShown, by simpa using matched.events,
    matched.sink⟩

section Wording

/-- The line on an artifact that was read. -/
def LogText.loaded (path : String) (size : Nat) : String :=
  "INFO Module artifact loaded path=" ++ path ++ " size_bytes=" ++ toString size

/-- The line on a module that was instantiated. -/
def LogText.instantiated (imports exports memoryBytes : Nat) : String :=
  "INFO Module instantiated imports=" ++ toString imports ++ " exports=" ++ toString exports
    ++ " memory_bytes=" ++ toString memoryBytes

/-- The line on the call of an entry point. -/
def LogText.invoking (entry : String) : String :=
  "INFO Invoking entry point entry=" ++ entry

/-- The line on an entry point that has returned. -/
def LogText.returned (hostCalls peakBytes : Nat) : String :=
  "INFO Entry point returned host_calls=" ++ toString hostCalls ++ " peak_memory_bytes="
    ++ toString peakBytes

/-- The line on an error of a stage. -/
def LogText.failed (message stage : String) : String :=
  "ERROR " ++ terminalText message ++ " stage=" ++ stage

/-- The character commands a terminal. -/
def CommandsTerminal (char : Char) : Prop :=
  char ∈ ['\x07', '\x08', '\x0c', '\x1b', '\x7f'] ∨ 128 ≤ char.toNat ∧ char.toNat < 160

theorem terminalChar_of_harmless {char : Char} (harmless : ¬CommandsTerminal char) :
    terminalChar char = char.toString := by
  simp only [CommandsTerminal, List.mem_cons, List.not_mem_nil, or_false, not_or] at harmless
  rcases harmless with ⟨⟨bell, back, feed, escape, delete⟩, inRange⟩
  rw [terminalChar.eq_def]
  split
  · exact absurd rfl bell
  · exact absurd rfl back
  · exact absurd rfl feed
  · exact absurd rfl escape
  · exact absurd rfl delete
  · rw [if_neg]
    simpa using inRange

theorem join_map_toString (chars : List Char) :
    String.join (chars.map Char.toString) = String.ofList chars := by
  induction chars with
  | nil => rfl
  | cons char rest ih =>
      rw [List.map_cons, String.join_cons, ih, String.ofList_cons]
      rfl

/-- A text that has no commands for a terminal is written for one as it is. -/
theorem terminalText_of_harmless {text : String}
    (harmless : ∀ char ∈ text.toList, ¬CommandsTerminal char) : terminalText text = text := by
  have each : text.toList.map terminalChar = text.toList.map Char.toString :=
    List.map_congr_left fun char char_mem => terminalChar_of_harmless (harmless char char_mem)
  rw [terminalText, each, join_map_toString, String.ofList_toList]

theorem logLine_nil (level : Level) (message : String) :
    logLine level message [] = level.text ++ " " ++ terminalText message := by
  simp [logLine]

/-- A further field is written after a blank, its name and an equals sign. -/
theorem logLine_snoc (level : Level) (message : String) (fields : List (String × Field))
    {name separator : String} (field : Field) (written : " " ++ name ++ "=" = separator) :
    logLine level message (fields ++ [(name, field)])
      = logLine level message fields ++ separator ++ field.render := by
  subst written
  simp only [logLine, List.map_append, List.map_cons, List.map_nil, ← List.cons_append]
  rw [String.intercalate_append_of_ne_nil (by simp) (by simp), String.intercalate_singleton]
  simp only [String.append_assoc]

theorem logLine_singleton {level : Level} {message name start : String} (field : Field)
    (starts : level.text ++ " " ++ terminalText message ++ (" " ++ name ++ "=") = start) :
    logLine level message [(name, field)] = start ++ field.render := by
  rw [← starts, ← logLine_nil]
  exact logLine_snoc level message [] field rfl

theorem Event.line_artifactLoaded (path : String) (size : Nat) :
    (artifactLoaded path size).line = LogText.loaded path size := by
  have one : logLine .info "Module artifact loaded" [("path", .text path)]
      = "INFO Module artifact loaded path=" ++ path :=
    logLine_singleton (.text path) (by decide +kernel)
  have two := logLine_snoc .info "Module artifact loaded" [("path", .text path)] (.number size)
    (show " " ++ "size_bytes" ++ "=" = " size_bytes=" by decide +kernel)
  rw [one] at two
  exact two

theorem Event.line_instantiated (imports exports : Nat) (memoryBytes : UInt64) :
    (instantiated imports exports memoryBytes).line
      = LogText.instantiated imports exports memoryBytes.toNat := by
  have one : logLine .info "Module instantiated" [("imports", .number imports)]
      = "INFO Module instantiated imports=" ++ toString imports :=
    logLine_singleton (.number imports) (by decide +kernel)
  have two := logLine_snoc .info "Module instantiated" [("imports", .number imports)]
    (.number exports) (show " " ++ "exports" ++ "=" = " exports=" by decide +kernel)
  have three := logLine_snoc .info "Module instantiated"
    [("imports", .number imports), ("exports", .number exports)] (.number memoryBytes.toNat)
    (show " " ++ "memory_bytes" ++ "=" = " memory_bytes=" by decide +kernel)
  rw [one] at two
  rw [← List.singleton_append, two] at three
  exact three

theorem Event.line_invoking (entry : String) :
    (invoking entry).line = LogText.invoking entry := by
  have start : Level.info.text ++ " " ++ terminalText "Invoking entry point"
      ++ (" " ++ "entry" ++ "=") = "INFO Invoking entry point entry=" := by
    decide +kernel
  exact logLine_singleton (.text entry) start

theorem Report.returnedLine_eq (completion : Completion) :
    returnedLine completion = LogText.returned completion.hostCalls completion.peakBytes.toNat := by
  have one : logLine .info "Entry point returned" [("host_calls", .number completion.hostCalls)]
      = "INFO Entry point returned host_calls=" ++ toString completion.hostCalls :=
    logLine_singleton (.number completion.hostCalls) (by decide +kernel)
  have two := logLine_snoc .info "Entry point returned"
    [("host_calls", .number completion.hostCalls)] (.number completion.peakBytes.toNat)
    (show " " ++ "peak_memory_bytes" ++ "=" = " peak_memory_bytes=" by decide +kernel)
  rw [one] at two
  exact two

theorem Report.errorLine_eq {error : Error} {stage : Stage} (isStage : error.stage = stage) :
    errorLine error = LogText.failed error.message stage.text := by
  subst isStage
  have field := logLine_snoc .error error.message [] (.text error.stage.text)
    (show " " ++ "stage" ++ "=" = " stage=" by decide +kernel)
  rw [logLine_nil] at field
  exact field

end Wording

section Lines

/-- The lines that the program's log has for events. -/
def Report.linesOf (events : List Event) : List String :=
  (events.filter shows).map Event.line

theorem Report.linesOf_append (events more : List Event) :
    linesOf (events ++ more) = linesOf events ++ linesOf more := by
  rw [linesOf, List.filter_append, List.map_append]
  rfl

/-- Without a ceiling the log of the program shows nothing of what code at work leaves. -/
theorem Chatter.linesOf_eq_nil {limits : ResourceLimits} {events : List Event}
    (chatter : Chatter limits events) (noCeiling : limits.maxMemoryBytes = none) :
    Report.linesOf events = [] := by
  induction chatter with
  | nil => rfl
  | overCeiling current desired configured _ _ => simp [noCeiling] at configured
  | putn value _ ih => exact ih
  | overMaximum current desired maximum _ ih => exact ih
  | growing current desired _ ih => exact ih
  | growthFailed current desired reason _ ih => exact ih

theorem linesOf_importEvents (items : List Import) : Report.linesOf (importEvents items) = [] := by
  simp [Report.linesOf, importEvents, Report.shows, Event.level]

theorem linesOf_loadEvents (path : String) (size : Nat) :
    Report.linesOf (loadEvents path size) = [LogText.loaded path size] := by
  rw [← Event.line_artifactLoaded]
  rfl

theorem linesOf_linkEvents (path : String) (size : Nat) (m : Module) :
    Report.linesOf (linkEvents path size m) = [LogText.loaded path size] := by
  rw [linkEvents, Report.linesOf_append, linesOf_loadEvents, linesOf_importEvents, List.append_nil]

theorem Host.linesOf_instantiatedEvent {σ : Type} (host : Host σ) (m : Module) :
    Report.linesOf [host.instantiatedEvent m]
      = [LogText.instantiated m.imports.size m.exports.size host.limiter.current.toNat] := by
  rw [← Event.line_instantiated]
  rfl

/-- What is shown of an entry point that is called. -/
theorem linesOf_entryEvents (name : String) (type : FuncType) :
    Report.linesOf [.entryResolved name type, .invoking name] = [LogText.invoking name] := by
  rw [← Event.line_invoking]
  rfl

end Lines

/-- How a run with the default settings ends, if the program has written this output: the exit code
and the lines of the log. -/
inductive Summary [Engine] (steps : Nat) (files : Files) (path output : String) :
    Except Error Completion → (exitCode : Nat) → (log : List String) → Prop
  | load {error : Error} (unread : files.read path = .error error) :
      Summary steps files path output (.error error) 2 [LogText.failed error.message "load"]
  | link {bytes : ByteArray} {error : Error} {after : Host Recorder}
      (readable : files.read path = .ok bytes)
      (stops : (instantiate steps {} bytes).Stops (Host.recording.loading path bytes.size)
        (.failed error) after) :
      Summary steps files path output (.error error) 3
        [LogText.loaded path bytes.size, LogText.failed error.message "link"]
  | resolve {bytes : ByteArray} {inst : Instance} {error : Error} {host after : Host Recorder}
      (readable : files.read path = .ok bytes)
      (instantiated : (instantiate steps {} bytes).Yields (Host.recording.loading path bytes.size)
        inst host)
      (stops : (resolveEntry "exported_main" inst).Stops host (.failed error) after) :
      Summary steps files path output (.error error) 4
        [LogText.loaded path bytes.size,
          LogText.instantiated inst.module.imports.size inst.module.exports.size
            host.limiter.current.toNat,
          LogText.failed error.message "resolve"]
  | invoke {bytes : ByteArray} {inst : Instance} {entry : Entry} {error : Error}
      {host resolved after : Host Recorder} (readable : files.read path = .ok bytes)
      (instantiated : (instantiate steps {} bytes).Yields (Host.recording.loading path bytes.size)
        inst host)
      (resolves : (resolveEntry "exported_main" inst).Yields host entry resolved)
      (stops : (invoke steps inst entry).Stops resolved (.failed error) after) :
      Summary steps files path output (.error error) 5
        [LogText.loaded path bytes.size,
          LogText.instantiated inst.module.imports.size inst.module.exports.size
            host.limiter.current.toNat,
          LogText.invoking "exported_main", LogText.failed error.message "invoke"]
  | completed {bytes : ByteArray} {inst : Instance} {entry : Entry} {completion : Completion}
      {host resolved after : Host Recorder} (readable : files.read path = .ok bytes)
      (instantiated : (instantiate steps {} bytes).Yields (Host.recording.loading path bytes.size)
        inst host)
      (resolves : (resolveEntry "exported_main" inst).Yields host entry resolved)
      (completes : (WasmHost.invoke steps inst entry).Yields resolved completion after) :
      Summary steps files path output (.ok completion) 0
        [LogText.loaded path bytes.size,
          LogText.instantiated inst.module.imports.size inst.module.exports.size
            host.limiter.current.toNat,
          LogText.invoking "exported_main",
          LogText.returned (output.toList.count '\n') completion.peakBytes.toNat]

section Reports

variable {steps : Nat} {files : Files} {path output : String} {result : Except Error Completion}
  {trace : List Event}

/-- The last line of the log, which tells the result. -/
def Report.lastLine : Except Error Completion → String
  | .ok completion => returnedLine completion
  | .error error => errorLine error

def Report.statusOf : Except Error Completion → Nat
  | .ok _ => 0
  | .error error => error.stage.exitCode

theorem Report.ofRun_eq (result : Except Error Completion) (host : Host Console) :
    ofRun (result.mapError .failed) host = .ok ⟨statusOf result, host.sink.written,
      linesOf host.events.toList ++ [lastLine result]⟩ := by
  cases result <;> rfl

theorem Report.exists_of_ofRun_eq_ok {outcome : Except Stop Completion} {host : Host Console}
    {report : Report} (present : ofRun outcome host = .ok report) :
    ∃ result : Except Error Completion, outcome = result.mapError .failed := by
  rcases outcome with (error | _ | _) | completion
  · exact ⟨.error error, rfl⟩
  · simp [ofRun] at present
  · simp [ofRun] at present
  · exact ⟨.ok completion, rfl⟩

variable [Engine]

/-- The log of a trace is that of the way in which the run ends. -/
theorem Trace.summary (traced : Trace steps {} files path Host.recording result trace)
    (counted : ∀ completion, result = .ok completion →
      completion.hostCalls = output.toList.count '\n') :
    Summary steps files path output result (Report.statusOf result)
      (Report.linesOf trace ++ [Report.lastLine result]) := by
  have sameModule : ∀ {bytes : ByteArray} {m : Module} {inst : Instance}
      {host after : Host Recorder},
      Module.load? bytes = some m → (instantiate steps {} bytes).Yields host inst after →
        m = inst.module.toModule := by
    intro bytes m inst host after loaded instantiated
    exact Option.some.inj (loaded.symm.trans (good_of_instantiate instantiated).1)
  cases traced with
  | unread unread =>
      have stage := Files.stage_of_read unread
      rw [Report.statusOf, Report.lastLine, Report.errorLine_eq stage, stage]
      exact .load unread
  | invalid readable invalid stops =>
      rw [linesOf_loadEvents, Report.lastLine, Report.errorLine_eq rfl]
      exact .link readable stops
  | badImport readable loaded parts allGood other misfit stops =>
      rw [Report.linesOf_append, linesOf_loadEvents, linesOf_importEvents, Report.lastLine,
        Report.errorLine_eq rfl]
      exact .link readable stops
  | refused linkable chatter stops =>
      rw [Report.linesOf_append, linesOf_linkEvents, chatter.linesOf_eq_nil rfl, Report.lastLine,
        Report.errorLine_eq rfl]
      exact .link linkable.readable stops
  | noEntry linkable chatter instantiated absent stops =>
      have stage := resolveEntry_stage stops
      rw [Report.linesOf_append, Report.linesOf_append, linesOf_linkEvents,
        chatter.linesOf_eq_nil rfl, Host.linesOf_instantiatedEvent, Report.statusOf,
        Report.lastLine, Report.errorLine_eq stage, stage, sameModule linkable.loaded instantiated]
      exact .resolve linkable.readable instantiated stops
  | trapped linkable chatter instantiated enters resolves moreChatter stops =>
      simp only [Report.linesOf_append, linesOf_linkEvents, chatter.linesOf_eq_nil rfl,
        Host.linesOf_instantiatedEvent, linesOf_entryEvents, moreChatter.linesOf_eq_nil rfl]
      rw [Report.lastLine, Report.errorLine_eq rfl, sameModule linkable.loaded instantiated]
      exact .invoke linkable.readable instantiated resolves stops
  | @returned _ _ _ _ _ _ _ _ _ type results completion linkable chatter instantiated enters
      resolves moreChatter completes length =>
      have ignored : Report.linesOf (if type.results = [] then []
          else [.resultsIgnored ({} : Config).entryPoint results]) = [] := by
        split <;> rfl
      simp only [Report.linesOf_append, linesOf_linkEvents, chatter.linesOf_eq_nil rfl,
        Host.linesOf_instantiatedEvent, linesOf_entryEvents, moreChatter.linesOf_eq_nil rfl,
        ignored]
      rw [Report.lastLine, Report.returnedLine_eq, counted completion rfl,
        sameModule linkable.loaded instantiated]
      exact .completed linkable.readable instantiated resolves completes

/-- The number of calls in a report is the number of lines written. -/
theorem hostCalls_eq_lines {config : Config} {completion : Completion} {after : Host Recorder}
    (completes : (run steps files path config).Yields .recording completion after) :
    completion.hostCalls = after.sink.rendered.toList.count '\n' := by
  rw [run_eq] at completes
  rcases HostM.bind_yields_iff.mp completes with ⟨artifact, host, loads, completes⟩
  rcases loadArtifact_yields loads with ⟨_, rfl⟩
  have told := (tells_runBytes steps config artifact.bytes).told completes
  have calls : after.calls = 0 + _ := told.calls
  have recorded : after.sink = Sink.emitAll {} _ := told.sink
  rw [Recorder.emitAll_of_unlimited {} rfl] at recorded
  rw [runBytes_report completes, Recorder.count_newline_rendered, recorded, calls]
  simp [Recorder.extend]

end Reports

/-- The program and the library agree. The program gives no report exactly if the recorded run of
the library overflows or does not end. Otherwise it writes the recorded numbers as the recorder
renders them, its exit code is 0 exactly if the run completes, and exit code and log are those of
the way in which the run ends: up to four lines on the stages passed, and one with the text and the
stage of the error if there is one. The number of calls in the last line is the number of lines
written. The text of an error is written as it is, but for characters that command a terminal. -/
theorem report_agrees_with_run [Engine] (steps : Nat) (files : Files) (directory : String) :
    (∀ stop, Report.ofInstalled steps files directory {} = .error stop ↔
        (stop = .overflow ∨ stop = .unfinished) ∧
          ∃ after, (runInstalled steps files directory).Stops .recording stop after) ∧
      (∀ report, Report.ofInstalled steps files directory {} = .ok report →
        ∃ result after,
          (runInstalled steps files directory).outcome .recording
            = (result.mapError .failed, after) ∧
          report.output = after.sink.rendered ∧
          (report.exitCode = 0 ↔ ∃ completion, result = .ok completion) ∧
          Summary steps files (Artifact.pathIn directory "generated.wasm") report.output result
            report.exitCode report.log ∧
          ∀ completion, result = .ok completion →
            completion.hostCalls = report.output.toList.count '\n') ∧
      ∀ error : Error, (∀ char ∈ error.message.toList, ¬CommandsTerminal char) →
        terminalText error.message = error.message := by
  rcases exists_recorded_run steps files directory with
    ⟨outcome, recorded, shown, ended, endedShown, events, sink⟩
  have reported : Report.ofInstalled steps files directory {} = Report.ofRun outcome shown := by
    rw [Report.ofInstalled_eq, endedShown]
  have stopped : ∀ {stop : Stop}, outcome = .error stop ↔
      ∃ after, (runInstalled steps files directory).Stops .recording stop after := by
    intro stop
    simp [HostM.Stops, ended]
  refine ⟨?_, ?_, fun error => terminalText_of_harmless⟩
  · intro stop
    rw [reported, Report.ofRun_eq_error_iff, stopped, and_comm]
  · intro report present
    rw [reported] at present
    rcases Report.exists_of_ofRun_eq_ok present with ⟨result, rfl⟩
    rw [Report.ofRun_eq, Except.ok.injEq] at present
    subst present
    rcases exists_trace ended with ⟨trace, logged, traced⟩
    have log : shown.events.toList = trace := by
      rw [← events]
      simpa [Host.recording] using logged
    have counted : ∀ completion, result = .ok completion →
        completion.hostCalls = shown.sink.written.toList.count '\n' := by
      rintro completion rfl
      rw [sink.written]
      exact hostCalls_eq_lines ended
    refine ⟨result, recorded, ended, sink.written, ?_, ?_, counted⟩
    · cases result with
      | ok completion => simp [Report.statusOf]
      | error error => cases stage : error.stage <;> simp [Report.statusOf, stage, Stage.exitCode]
    · rw [log]
      exact traced.summary counted

section

open PlainEngine

/-- The growing module grows all that it asks for, since there is no ceiling, and writes four lines.
The last line of the log counts them. -/
theorem growingModule_reported :
    ∃ report, Report.ofInstalled 30 (fun _ => .ok (.ok growingModule)) "/" {} = .ok report ∧
      report.output = "1\n0\n1\n2\n" ∧
      ∃ completion, Summary 30 (fun _ => .ok (.ok growingModule))
        (Artifact.pathIn "/" "generated.wasm") "1\n0\n1\n2\n" (.ok completion) 0 report.log ∧
        report.log.getLast? = some (LogText.returned 4 completion.peakBytes.toNat) := by
  have shown : (Report.ofInstalled 30 (fun _ => .ok (.ok growingModule)) "/" {}).toOption.any
      (fun report => report.output = "1\n0\n1\n2\n" && report.exitCode = 0) = true := by
    decide +kernel
  rcases (Option.any_eq_true _ _).mp shown with ⟨report, isReport, facts⟩
  have reported : Report.ofInstalled 30 (fun _ => .ok (.ok growingModule)) "/" {} = .ok report := by
    cases outcome : Report.ofInstalled 30 (fun _ => .ok (.ok growingModule)) "/" {} with
    | error stop => simp [outcome, Except.toOption] at isReport
    | ok other => simpa [outcome, Except.toOption] using isReport
  simp only [Bool.and_eq_true, decide_eq_true_eq] at facts
  rcases facts with ⟨output, exitCode⟩
  have agrees := report_agrees_with_run 30 (fun _ => .ok (.ok growingModule)) "/"
  rcases agrees.2.1 report reported with ⟨result, after, _, _, completes, summary, _⟩
  rcases completes.mp exitCode with ⟨completion, rfl⟩
  rw [output, exitCode] at summary
  refine ⟨report, reported, output, completion, summary, ?_⟩
  have lines : "1\n0\n1\n2\n".toList.count '\n' = 4 := by
    decide +kernel
  generalize report.log = log at summary
  cases summary with
  | completed readable instantiated resolves completes =>
      rw [← lines]
      rfl

end

end WasmHost
