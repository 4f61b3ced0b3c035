import Reckoner.CommandLine.Outcome
import Reckoner.Proofs.Run.Events

/-!
# Scripts and runs

A script takes its source through the stages by itself, and so does a run. The two agree: a script
prints the value of the run of its source in an empty environment, alone or with what the stages
before came to, or it prints nothing and fails with the error of the run. What is logged beside it,
and whether the source is an argument or the content of a file, changes nothing of this.

* `Request.ofArguments_spelled`: all options can be asked for.
* `script_cases`: the two ways a script can end.
* `Outcome.exists_ofSource`: the outcome of a source, in terms of its run.
* `script_agrees_with_run`: it is that of every invocation with the source, whichever way it is
  given and whatever is logged.
-/

namespace Reckoner.CommandLine

/-! ## Arguments -/

/-- Arguments that ask for the options of a run: its flags letter by letter, and the source behind
a lone `--`. -/
def Options.spelled (o : Options) : List String :=
  (if o.file then ["-f"] else []) ++ (if o.quiet then ["-q"] else []) ++
    (if o.verbose then ["-v"] else []) ++ o.source?.elim [] fun source => ["--", source]

theorem Request.ofArguments_spelled (o : Options) : Request.ofArguments o.spelled = .run o := by
  obtain ⟨file, quiet, verbose, source?⟩ := o
  cases file <;> cases quiet <;> cases verbose <;> cases source? <;> rfl

/-! ## The stages of a script -/

/-- What a script prints whose stages have come to all this. -/
def printed (quiet : Bool) (source : String) (tokens : List Token) (tree : Expr) (env : Env)
    (value : Value) : String :=
  if quiet then toString value ++ "\n" else listing source tokens tree value env

section

variable {quiet : Bool} {source : String} {tokens : List Token} {tree : Expr}

theorem script_of_scan_error {error : ScanError} (h : scan source = .error error) :
    script quiet source = .error (.scanning error) := by
  rw [script, h]
  rfl

theorem script_of_parse_error {error : ParseError} (hscan : scan source = .ok tokens)
    (hparse : parse tokens = .error error) : script quiet source = .error (.parsing error) := by
  rw [script, hscan]
  change ((parse tokens).mapError RunError.parsing).bind _ = _
  rw [hparse]
  rfl

theorem script_of_parse_ok (hscan : scan source = .ok tokens) (hparse : parse tokens = .ok tree) :
    script quiet source =
      (run source ∅).result.map (printed quiet source tokens tree (run source ∅).env) := by
  rw [run_of_compile_ok (compile_eq_ok_iff.mpr ⟨tokens, hscan, hparse⟩), script, hscan]
  change ((parse tokens).mapError RunError.parsing).bind _ = _
  rw [hparse]
  change ((tree.evaluate ∅).result.mapError RunError.evaluating).bind _ =
    ((tree.evaluate ∅).result.mapError RunError.evaluating).map _
  cases (tree.evaluate ∅).result.mapError RunError.evaluating <;> rfl

/-- A script fails with the error of the run, or prints the value of the run with what the stages
before came to. -/
theorem script_cases (quiet : Bool) (source : String) :
    (∃ error, (run source ∅).result = .error error ∧ script quiet source = .error error) ∨
    ∃ tokens tree value, scan source = .ok tokens ∧ parse tokens = .ok tree ∧
      (run source ∅).result = .ok value ∧
      script quiet source = .ok (printed quiet source tokens tree (run source ∅).env value) := by
  cases hscan : scan source with
  | error error =>
    refine .inl ⟨.scanning error, ?_, script_of_scan_error hscan⟩
    rw [run_of_compile_error (compile_of_scan_error hscan)]
  | ok tokens =>
    cases hparse : parse tokens with
    | error error =>
      have hcompile := compile_of_scan_ok hscan
      rw [hparse] at hcompile
      refine .inl ⟨.parsing error, ?_, script_of_parse_error hscan hparse⟩
      rw [run_of_compile_error hcompile]
    | ok tree =>
      rw [script_of_parse_ok hscan hparse]
      cases hresult : (run source ∅).result with
      | error error => exact .inl ⟨error, rfl, rfl⟩
      | ok value => exact .inr ⟨tokens, tree, value, rfl, hparse, rfl, rfl⟩

end

/-! ## Outcomes -/

namespace Outcome

section

variable {quiet verbose : Bool} {source output : String} {shows : LogFilter}
  {reader : SettingReader} {arguments : List String} {logSetting : Option String}
  {readFile : String → Except FileError (List UInt8)} {input : List UInt8}

theorem ofSource_of_ok (h : script quiet source = .ok output) :
    ofSource quiet shows source =
      .finished 0 output (Event.log shows (run source ∅).events) := by
  simp only [ofSource, h]

theorem ofSource_of_error {error : RunError} (h : script quiet source = .error error) :
    ofSource quiet shows source =
      .finished 1 "" (Event.log shows ((run source ∅).events ++ [.failed error.stage]) ++
        error.message ++ "\n") := by
  simp only [ofSource, h]

/-- The outcome of a source in terms of its run. What the log shows changes the error output
only, and of it what stands in front of the error. -/
theorem exists_ofSource (source : String) (quiet : Bool) :
    ∃ code output,
      (code = 0 ∨ code = 1) ∧ (code = 0 ↔ ∃ value, (run source ∅).result = .ok value) ∧
      (∀ value, (run source ∅).result = .ok value →
        ∃ tokens tree, scan source = .ok tokens ∧ parse tokens = .ok tree ∧
          output = printed quiet source tokens tree (run source ∅).env value) ∧
      (∀ error, (run source ∅).result = .error error → output = "") ∧
      ∀ shows, ∃ errors,
        (∀ error, (run source ∅).result = .error error →
          ∃ log, errors = log ++ error.message ++ "\n") ∧
        ofSource quiet shows source = .finished code output errors := by
  obtain ⟨error, hresult, hscript⟩ | ⟨tokens, tree, value, hscan, hparse, hresult, hscript⟩ :=
    script_cases quiet source
  · have hnone : ∀ value, (run source ∅).result ≠ .ok value := by
      rw [hresult]
      exact fun _ => nofun
    refine ⟨1, "", .inr rfl, ⟨nofun, fun ⟨value, h⟩ => absurd h (hnone value)⟩,
      fun value h => absurd h (hnone value), fun _ _ => rfl, fun shows => ?_⟩
    refine ⟨_, fun error' h => ?_, ofSource_of_error hscript⟩
    rw [hresult] at h
    cases h
    exact ⟨_, rfl⟩
  · have hnone : ∀ error, (run source ∅).result ≠ .error error := by
      rw [hresult]
      exact fun _ => nofun
    refine ⟨0, _, .inl rfl, ⟨fun _ => ⟨value, hresult⟩, fun _ => rfl⟩, fun value' h => ?_,
      fun error h => absurd h (hnone error),
      fun shows => ⟨_, fun error h => absurd h (hnone error), ofSource_of_ok hscript⟩⟩
    rw [hresult] at h
    cases h
    exact ⟨tokens, tree, hscan, hparse, rfl⟩

/-- The outcome of a source that is an argument. -/
theorem ofInvocation_source
    (h : Request.ofArguments arguments = .run ⟨false, quiet, verbose, some source⟩) :
    ofInvocation reader arguments logSetting readFile input =
      ofSource quiet (if verbose then .upTo .debug else (logSetting.bind reader).getD (.upTo .warn))
        source := by
  rw [ofInvocation, h]
  rfl

/-- The outcome of a source that is the content of a file. -/
theorem ofInvocation_file {path : String}
    (h : Request.ofArguments arguments = .run ⟨true, quiet, verbose, some path⟩)
    (hread : readFile path = .ok (bytesOfText source)) :
    ofInvocation reader arguments logSetting readFile input =
      ofSource quiet (if verbose then .upTo .debug else (logSetting.bind reader).getD (.upTo .warn))
        source := by
  rw [ofInvocation, h]
  show ofFile quiet _ path (readFile path) = _
  have htext : (readFile path).bind textOfBytes = .ok source := by
    rw [hread]
    exact textOfBytes_bytesOfText source
  simp only [ofFile, htext]
  rfl

end

end Outcome

/-- All options can be asked for. An invocation with a source exits with code zero if the run of the
source in an empty environment comes to a value, and with code one otherwise. It prints the value,
alone if it is to be quiet, and otherwise behind the source, its tokens and its tree and in front of
the environment that the run leaves. If the run fails it prints nothing, and the error output ends
with the error of the run. Neither the verbose flag nor the log setting, however it is read, changes
code or output, and a file that holds the source comes to the same as the source, the error output
included. -/
theorem script_agrees_with_run (source : String) (quiet : Bool) :
    (∀ o : Options, Request.ofArguments o.spelled = .run o) ∧
    ∃ code output,
      (code = 0 ∨ code = 1) ∧ (code = 0 ↔ ∃ value, (run source ∅).result = .ok value) ∧
      (∀ value, (run source ∅).result = .ok value →
        ∃ tokens tree, scan source = .ok tokens ∧ parse tokens = .ok tree ∧
          output = if quiet then toString value ++ "\n"
            else "Source: " ++ source ++ "\n\nTokens:\n" ++
              String.join (tokens.map fun t => toString t ++ "\n") ++
              "\nTree:\n" ++ toString tree ++ "\n\nResult: " ++ toString value ++
              "\nEnvironment: " ++ toString (run source ∅).env ++ "\n") ∧
      (∀ error, (run source ∅).result = .error error → output = "") ∧
      ∀ reader verbose logSetting, ∃ errors,
        (∀ error, (run source ∅).result = .error error →
          ∃ log, errors = log ++ error.message ++ "\n") ∧
        ∀ arguments readFile input,
          (Request.ofArguments arguments = .run ⟨false, quiet, verbose, some source⟩ →
            Outcome.ofInvocation reader arguments logSetting readFile input =
              .finished code output errors) ∧
          ∀ path, Request.ofArguments arguments = .run ⟨true, quiet, verbose, some path⟩ →
            readFile path = .ok (bytesOfText source) →
              Outcome.ofInvocation reader arguments logSetting readFile input =
                .finished code output errors := by
  obtain ⟨code, output, hcodes, hcode, hok, herror, houtcome⟩ :=
    Outcome.exists_ofSource source quiet
  refine ⟨Request.ofArguments_spelled, code, output, hcodes, hcode, hok, herror,
    fun reader verbose logSetting => ?_⟩
  obtain ⟨errors, hlog, hsource⟩ :=
    houtcome (if verbose then .upTo .debug else (logSetting.bind reader).getD (.upTo .warn))
  refine ⟨errors, hlog, fun arguments readFile input => ⟨fun h => ?_, fun path h hread => ?_⟩⟩
  · rw [Outcome.ofInvocation_source h, hsource]
  · rw [Outcome.ofInvocation_file h hread, hsource]

/-- A source that comes to a value: with all that is printed of it, under a log setting that cannot
be read, and quietly as the content of a file. And sources that fail while they are scanned, parsed
and evaluated. -/
theorem script_agrees_with_run_assignment :
    (∃ errors, Outcome.ofInvocation .word ["--", "k = 6 - 8"] (some "a b")
        (fun _ => .error .notFound) [] =
      .finished 0 ("Source: k = 6 - 8\n\n" ++
        "Tokens:\nIDENTIFIER('k')\nASSIGN('=')\nNUMBER('6')\nMINUS('-')\nNUMBER('8')\n" ++
        "ENDMARKER('')\n\nTree:\nAssignment(k, BinaryOp(-, 6, 8))\n\n" ++
        "Result: -2\nEnvironment: \x7bk: -2\x7d\n") errors) ∧
    (∃ errors, Outcome.ofInvocation .word ["-fvq", "difference"] (some "trace")
      (fun _ => .ok (bytesOfText "k = 6 - 8")) [] = .finished 0 "-2\n" errors) ∧
    ∀ c ∈ [("6 $", "Lexical error: Invalid symbol at line 1, column 3: $"),
        ("6 +", "Syntax error: Unexpected token ENDMARKER('') at line 1, column 4"),
        ("6 / 0", "Evaluation error: Division by zero in 6 / 0")],
      ∃ log, Outcome.ofInvocation .word ["--", c.1] none (fun _ => .error .notFound) [] =
        .finished 1 "" (log ++ c.2 ++ "\n") := by
  have hvalue : (run "k = 6 - 8" ∅).result = .ok ⟨-2, by decide⟩ := by decide +kernel
  refine ⟨?_, ?_, fun c hc => ?_⟩
  · obtain ⟨-, code, output, -, hcode, hok, -, houtcome⟩ :=
      script_agrees_with_run "k = 6 - 8" false
    obtain ⟨tokens, tree, hscan, hparse, rfl⟩ := hok _ hvalue
    obtain rfl : code = 0 := hcode.mpr ⟨_, hvalue⟩
    obtain rfl : (scan "k = 6 - 8").toOption.getD [] = tokens := by rw [hscan]; rfl
    obtain rfl : (parse ((scan "k = 6 - 8").toOption.getD [])).toOption.getD (.var "") = tree := by
      rw [hparse]; rfl
    obtain ⟨errors, -, hshown⟩ := houtcome .word false (some "a b")
    refine ⟨errors, ((hshown _ _ _).1 (by decide +kernel)).trans ?_⟩
    refine congrArg (Outcome.finished 0 · errors) ?_
    decide +kernel
  · obtain ⟨-, code, output, -, hcode, hok, -, houtcome⟩ :=
      script_agrees_with_run "k = 6 - 8" true
    obtain ⟨_, _, -, -, hprinted⟩ := hok _ hvalue
    obtain rfl : code = 0 := hcode.mpr ⟨_, hvalue⟩
    obtain rfl : output = "-2\n" := hprinted.trans (if_pos rfl)
    obtain ⟨errors, -, hquiet⟩ := houtcome .word true (some "trace")
    exact ⟨errors, (hquiet _ _ _).2 "difference" (by decide +kernel) rfl⟩
  · -- a source fails with the error of its run, whatever the stage
    have hfails : ∀ source error, (run source ∅).result = .error error →
        ∃ log, Outcome.ofInvocation .word ["--", source] none (fun _ => .error .notFound) [] =
          .finished 1 "" (log ++ error.message ++ "\n") := by
      intro source error herror
      obtain ⟨hspelled, code, output, hcodes, hcode, -, hempty, houtcome⟩ :=
        script_agrees_with_run source false
      obtain ⟨errors, hlog, hshown⟩ := houtcome .word false none
      obtain ⟨log, rfl⟩ := hlog _ herror
      have hne : code ≠ 0 := fun h => by
        obtain ⟨value, hvalue⟩ := hcode.mp h
        rw [herror] at hvalue
        cases hvalue
      obtain rfl : code = 1 := hcodes.resolve_left hne
      obtain rfl : output = "" := hempty _ herror
      exact ⟨log, (hshown ["--", source] _ _).1 (hspelled ⟨false, false, false, some source⟩)⟩
    simp only [List.mem_cons, List.not_mem_nil, or_false] at hc
    rcases hc with rfl | rfl | rfl
    · exact hfails "6 $" (.scanning ⟨"$", ⟨1, 3⟩⟩) (by decide +kernel)
    · exact hfails "6 +" (.parsing (.unexpected (.endMarker ⟨1, 4⟩))) (by decide +kernel)
    · exact hfails "6 / 0" (.evaluating (.divisionByZero ⟨6, by decide⟩ .zero))
        (by decide +kernel)

end Reckoner.CommandLine
