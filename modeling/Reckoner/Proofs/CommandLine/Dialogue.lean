import Reckoner.CommandLine.Outcome
import Reckoner.Proofs.CommandLine.Lines
import Reckoner.Proofs.Run.Names
import Mathlib.Data.List.DropRight

/-!
# Dialogues and runs

A dialogue replies to every line with a prompt and the answer of a run in one environment that goes
on from run to run. The lines that it passes over are those without a lexeme. Their runs would have
changed nothing, and neither do the runs of lines that fail to scan or to parse. So all of these may
be taken out of a dialogue, and the replies to the other lines stay as they are.

* `Text.isTrimmed_eq`: trimming a line takes off what scanning passes over.
* `exists_scan_endMarker_iff`: a source without a lexeme is blank.
* `Dialogue.ofLines_texts`: what a dialogue prints, line by line.
* `Dialogue.replies_kept`: lines that come to no expression can be left out.
-/

namespace Reckoner

/-! ## Blank lines -/

namespace Text

variable {cs : List Char}

/-- The characters taken off the ends of a text, looked up by the page of 256 code points that they
are on. -/
def isTrimmed (c : Char) : Bool :=
  let n := c.toNat
  match n / 256 with
  | 0x00 => 0x09 ≤ n ∧ n ≤ 0x0D ∨ n = 0x20 ∨ n = 0x85 ∨ n = 0xA0
  | 0x16 => n = 0x1680
  | 0x20 => n ≤ 0x200A ∨ n = 0x2028 ∨ n = 0x2029 ∨ n = 0x202F ∨ n = 0x205F
  | 0x30 => n = 0x3000
  | _ => false

/-- What is left of a text without the white space at its ends. -/
def trim (cs : List Char) : List Char := (cs.dropWhile isTrimmed).rdropWhile isTrimmed

/-- Trimming and scanning have the same notion of a blank. -/
theorem isTrimmed_eq (c : Char) : isTrimmed c = isBlank c := by
  rw [Bool.eq_iff_iff, isBlank_iff]
  simp only [isTrimmed, blank]
  split
  case h_5 h₁ h₂ h₃ h₄ =>
    rw [imp_false] at h₁ h₂ h₃ h₄
    simp
    omega
  all_goals
    simp
    omega

theorem trim_eq_nil_iff : trim cs = [] ↔ ∀ c ∈ cs, isBlank c = true := by
  rw [trim, funext isTrimmed_eq, List.rdropWhile_eq_nil_iff]
  refine ⟨fun h => ?_, fun h c hc => h c ((List.dropWhile_sublist _).subset hc)⟩
  rw [← List.dropWhile_eq_nil_iff]
  by_contra hne
  have hfirst := h _ (List.head_mem hne)
  exact absurd (List.head_dropWhile_not isBlank hne) (Bool.ne_false_iff.mpr hfirst)

end Text

/-- A text that is read without a lexeme is blank. -/
theorem Scan.Reads.forall_isBlank {here : Location} {cs : List Char} {s : Scan}
    (h : Reads here cs s) (htokens : s.tokens = []) (hrest : s.rest = []) :
    ∀ c ∈ cs, Text.isBlank c = true := by
  induction h with
  | stuck =>
    obtain rfl : _ = [] := hrest
    exact nofun
  | blank hc _ ih => exact List.forall_mem_cons.mpr ⟨hc, ih htokens hrest⟩
  | lexeme => cases htokens

theorem exists_scan_endMarker_iff {s : String} :
    (∃ stop, scan s = .ok [.endMarker stop]) ↔ ∀ c ∈ s.toList, Text.isBlank c = true := by
  constructor
  · rintro ⟨stop, hscan⟩
    obtain ⟨u, hreads, hrest, htokens⟩ := Scan.scan_eq_ok_iff.mp hscan
    have hnil : u.tokens = [] := by simpa using congrArg List.length htokens
    exact hreads.forall_isBlank hnil hrest
  · intro hblank
    have hreads := Scan.Reads.gap hblank (Scan.reads_nil (Location.after .start s.toList))
    rw [List.append_nil] at hreads
    exact ⟨_, Scan.scan_eq_ok_iff.mpr ⟨_, hreads, rfl, rfl⟩⟩

/-- An end marker alone is no expression. -/
theorem parse_endMarker (stop : Location) :
    parse [.endMarker stop] = .error (.unexpected (.endMarker stop)) := by
  have hbody : (Sentence.ofTokens [.endMarker stop]).body = [] := rfl
  rw [parse, Parse.parseWithin_eq_error_iff, hbody]
  exact .inl (.firstError (.firstError (.unexpected nofun)))

theorem exists_compile_error_of_blank {s : String} (h : ∀ c ∈ s.toList, Text.isBlank c = true) :
    ∃ error, compile s = .error error := by
  obtain ⟨stop, hscan⟩ := exists_scan_endMarker_iff.mpr h
  have hcompile := compile_of_scan_ok hscan
  rw [parse_endMarker] at hcompile
  exact ⟨_, hcompile⟩

namespace CommandLine

/-! ## Replies -/

namespace Dialogue

/-- What is printed for a line: the prompt, and the answer of the run of the line if it is not
blank. -/
def reply (env : Env) (s : String) : String :=
  if Text.trim s.toList = [] then prompt else prompt ++ answer (run s env)

/-- What is printed for some lines. Each run goes on where the last one left the environment. -/
def replies (env : Env) (lines : List String) : List String :=
  List.zipWith reply (env.reached lines) lines

/-- The line is blank, or fails to scan or to parse. -/
def Idle (s : String) : Prop := Text.trim s.toList = [] ∨ ∃ error, compile s = .error error

variable {env : Env} {s : String} {lines : List String}

theorem replies_cons (env : Env) (s : String) (lines : List String) :
    replies env (s :: lines) = reply env s :: replies (run s env).env lines := by
  rw [replies, Env.reached, List.scanl_cons]
  rfl

theorem Idle.env_run (h : Idle s) (env : Env) : (run s env).env = env := by
  obtain ⟨error, herror⟩ : ∃ error, compile s = .error error :=
    h.elim (fun hblank => exists_compile_error_of_blank (Text.trim_eq_nil_iff.mp hblank)) id
  rw [run_of_compile_error herror]

theorem isBlank_iff : Line.isBlank s = true ↔ Text.trim s.toList = [] := by
  rw [Text.trim_eq_nil_iff]
  exact List.all_eq_true

/-- A dialogue replies to every line, and says farewell. -/
theorem ofLines_texts (env : Env) (lines : List String) :
    ∃ events, ofLines env (lines.map .text) =
      ⟨String.join (replies env lines) ++ (prompt ++ farewell), events, false⟩ := by
  induction lines generalizing env with
  | nil =>
    refine ⟨[], ?_⟩
    rw [replies, List.zipWith_nil_right, String.join_nil, String.empty_append]
    rfl
  | cons s lines ih =>
    obtain ⟨events, hevents⟩ := ih (run s env).env
    rw [replies_cons, String.join_cons, String.append_assoc, List.map_cons, ofLines, reply]
    by_cases hblank : Text.trim s.toList = []
    · have henv : (run s env).env = env := Idle.env_run (.inl hblank) env
      rw [henv] at hevents ⊢
      rw [if_pos (isBlank_iff.mpr hblank), if_pos hblank, hevents]
      exact ⟨_, rfl⟩
    · rw [if_neg (mt isBlank_iff.mp hblank), if_neg hblank]
      dsimp only
      rw [hevents]
      exact ⟨_, rfl⟩

/-- The replies to the lines that are kept are the same when the others, which come to no
expression, are left out. -/
theorem replies_kept {marked : List (String × Bool)} (h : ∀ m ∈ marked, m.2 = false → Idle m.1)
    (env : Env) :
    replies env ((marked.filter Prod.snd).map Prod.fst) =
      (((replies env (marked.map Prod.fst)).zip marked).filter fun r => r.2.2).map Prod.fst := by
  induction marked generalizing env with
  | nil => rfl
  | cons m marked ih =>
    obtain ⟨s, kept⟩ := m
    have ih := ih fun m hm => h m (List.mem_cons_of_mem _ hm)
    rw [List.map_cons, replies_cons, List.zip_cons_cons]
    cases kept with
    | true =>
      rw [List.filter_cons_of_pos rfl, List.filter_cons_of_pos rfl, List.map_cons, List.map_cons,
        replies_cons, ih]
    | false =>
      have hidle : Idle s := h (s, false) List.mem_cons_self rfl
      rw [List.filter_cons_of_neg Bool.false_ne_true, List.filter_cons_of_neg Bool.false_ne_true,
        hidle.env_run, ih]

end Dialogue

/-! ## Sessions -/

theorem Outcome.ofInvocation_input {arguments : List String} {o : Options} {input : List UInt8}
    {lines : List String} (hsource : o.source? = none)
    (harguments : Request.ofArguments arguments = .run o)
    (hinput : Line.ofBytes input = lines.map .text) (reader : SettingReader)
    (logSetting : Option String) (readFile : String → Except FileError (List UInt8)) :
    ∃ errors, ofInvocation reader arguments logSetting readFile input =
      .finished 0 (String.join (Dialogue.replies ∅ lines) ++ ">> CTRL-D\n") errors := by
  obtain ⟨events, hevents⟩ := Dialogue.ofLines_texts ∅ lines
  refine ⟨Event.log (o.logFilter reader logSetting) events, ?_⟩
  rw [ofInvocation, harguments]
  simp only [ofRequest, ofOptions, hsource, ofInput, hinput, hevents]
  rfl

/-- An invocation without a source replies to every line of its input in one environment that starts
empty and goes on from line to line, whatever the lines come to, and says farewell with code zero.
Plain texts written with a line feed behind each are such an input. A blank line is one that is read
without a lexeme. Lines that are blank, or fail to scan or to parse, may be left out without a
change to the replies to the others. -/
theorem dialogue_replies_by_runs :
    (∀ reader arguments (o : Options) logSetting readFile input lines,
      Request.ofArguments arguments = .run o → o.source? = none →
      Line.ofBytes input = lines.map .text →
        ∃ errors, Outcome.ofInvocation reader arguments logSetting readFile input =
          .finished 0 (String.join (Dialogue.replies ∅ lines) ++ ">> CTRL-D\n") errors) ∧
    (∀ lines : List String, (∀ s ∈ lines, Line.Plain s) →
      Line.ofBytes (bytesOfText (String.join (lines.map fun s => s ++ "\n"))) =
        lines.map .text) ∧
    (∀ s : String, Text.trim s.toList = [] ↔ ∃ stop, scan s = .ok [.endMarker stop]) ∧
    ∀ (env : Env) (marked : List (String × Bool)),
      (∀ m ∈ marked, m.2 = false → Dialogue.Idle m.1) →
        Dialogue.replies env ((marked.filter Prod.snd).map Prod.fst) =
          (((Dialogue.replies env (marked.map Prod.fst)).zip marked).filter fun r => r.2.2).map
            Prod.fst :=
  ⟨fun reader _ _ logSetting readFile _ _ harguments hsource hinput =>
    Outcome.ofInvocation_input hsource harguments hinput reader logSetting readFile,
    fun _ h => Line.ofBytes_join h,
    fun _ => Text.trim_eq_nil_iff.trans exists_scan_endMarker_iff.symm,
    fun env _ h => Dialogue.replies_kept h env⟩

/-- A session: an assignment, a blank line, a line with a foreign character, one that lacks an
operand, an assignment in front of a failing operation, and a name. The second line to the fourth
change nothing. -/
def Dialogue.assignsTwice : List (String × Bool) :=
  [("x = 2", true), (" ", false), ("y @", false), ("x +", false), ("(x = 5) / 0", true),
    ("x", true)]

theorem dialogue_replies_by_runs_assignsTwice :
    (∃ errors, Outcome.ofInvocation .word ["-q"] none (fun _ => .error .notFound)
        (bytesOfText (String.join ((Dialogue.assignsTwice.map Prod.fst).map fun s => s ++ "\n"))) =
      .finished 0 (">> 2\n>> >> Lexical error: Invalid symbol at line 1, column 3: @\n" ++
        ">> Syntax error: Unexpected token ENDMARKER('') at line 1, column 4\n" ++
        ">> Evaluation error: Division by zero in 5 / 0\n>> 5\n>> CTRL-D\n") errors) ∧
    Dialogue.replies ∅ ["x = 2", "(x = 5) / 0", "x"] =
      [">> 2\n", ">> Evaluation error: Division by zero in 5 / 0\n", ">> 5\n"] := by
  have hreplies : Dialogue.replies ∅ (Dialogue.assignsTwice.map Prod.fst) =
      [">> 2\n", ">> ", ">> Lexical error: Invalid symbol at line 1, column 3: @\n",
        ">> Syntax error: Unexpected token ENDMARKER('') at line 1, column 4\n",
        ">> Evaluation error: Division by zero in 5 / 0\n", ">> 5\n"] := by
    decide +kernel
  have hplain : ∀ s ∈ Dialogue.assignsTwice.map Prod.fst, Line.Plain s := by decide +kernel
  have hidle : ∀ m ∈ Dialogue.assignsTwice, m.2 = false → Dialogue.Idle m.1 := by
    have hblank : Dialogue.Idle " " := .inl (by decide +kernel)
    have hforeign : Dialogue.Idle "y @" :=
      .inr ⟨.scanning ⟨"@", ⟨1, 3⟩⟩, by decide +kernel⟩
    have hlacks : Dialogue.Idle "x +" :=
      .inr ⟨.parsing (.unexpected (.endMarker ⟨1, 4⟩)), by decide +kernel⟩
    simp [Dialogue.assignsTwice, hblank, hforeign, hlacks]
  obtain ⟨houtput, hlines, -, hkept⟩ := dialogue_replies_by_runs
  obtain ⟨errors, herrors⟩ := houtput .word ["-q"] ⟨false, true, false, none⟩ none
    (fun _ => .error .notFound) _ _ (by decide +kernel) rfl (hlines _ hplain)
  have hrest := hkept ∅ Dialogue.assignsTwice hidle
  rw [hreplies] at herrors hrest
  refine ⟨⟨errors, herrors.trans (congrArg (Outcome.finished 0 · errors) ?_)⟩, hrest⟩
  decide +kernel

end CommandLine

end Reckoner
