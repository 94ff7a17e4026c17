import TurtleLang.Proofs.Scene

/-!
A run of the program is atomic. The first stage that fails decides what is reported, and
nothing was printed or written until then; only printing itself can fail with a part of the
program shown. A run that succeeds prints the program or writes one file. Paths may coincide,
because everything is read before anything is written.
-/
namespace TurtleLang

set_option autoImplicit false

variable {state File : Type}

/-- What the options file gives: its members, each of them at most once and in range. -/
inductive GivenBy (scene : Scene File) : Option String → Document.Given → Prop
  | nothing : GivenBy scene none {}
  | document {path text : String} {given : Document.Given} : scene.read path = .ok text →
      Document.readDocument text.toList = .ok given → Options.load text = .ok given.options →
        GivenBy scene (some path) given

def Arguments.over (arguments : Arguments) (given : Document.Given) : Options where
  indent := (arguments.indent.or given.indent).getD 4
  split := (arguments.split.or given.split).getD .command

structure Settled (scene : Scene File) (arguments : Arguments) (options : Options) : Prop where
  chosen : ∃ given, GivenBy scene arguments.config given ∧ options = arguments.over given
  range : 1 ≤ options.indent ∧ options.indent ≤ 16

/-- Whether the program can go to the file at a path or, without one, to the output. -/
def Scene.accepts (scene : Scene File) : Option String → Except FileFault Unit
  | some path => (scene.creates path).map fun _ => ()
  | none => scene.prints

inductive Emitted (before after : Scene File) (source : Option String) (script : Script) :
    Option String → Prop
  | printed : after.output = before.output ++ script.program →
      after.contents = before.contents → Emitted before after source script none
  | written {path : String} {file : File} : before.creates path = .ok file →
      after.contents file = some (bytesOf (banner source ++ script.program)) →
      (∀ other, other ≠ file → after.contents other = before.contents other) →
      after.output = before.output → Emitted before after source script (some path)

/-- Printing is what failed, so that a part of the program may be on the output. -/
def CutShort (scene : Scene File) (arguments : Arguments) (failure : Failure) : Prop :=
  arguments.output = none ∧ ∃ fault, scene.prints = .error fault ∧ failure = .writing fault

structure Spared (before after : Scene File) (arguments : Arguments) (failure : Failure) :
    Prop where
  contents : after.contents = before.contents
  output : ¬CutShort before arguments failure → after.output = before.output
  complaints : after.complaints = before.complaints

section Settings

variable {scene : Scene File} {arguments : Arguments} {given : Document.Given} {options : Options}

theorem check_ok_iff (options : Options) :
    options.check = .ok () ↔ 1 ≤ options.indent ∧ options.indent ≤ 16 := by
  unfold Options.check Options.widestIndent
  split
  · simp [*]
  · split
    · simp
      omega
    · simp
      omega

end Settings

def Scene.loaded (scene : Scene File) : Option String → Except Failure Options
  | none => .ok {}
  | some path =>
      match scene.read path with
      | .error fault => .error (.readingOptions path fault)
      | .ok text => (Options.load text).mapError (.loadingOptions path)

def Arguments.checked (arguments : Arguments) (loaded : Options) : Except Failure Options :=
  match (arguments.apply loaded).check with
  | .error fault => .error (.checkingOptions fault)
  | .ok () => .ok (arguments.apply loaded)

def Scene.settings (scene : Scene File) (arguments : Arguments) : Except Failure Options :=
  match scene.loaded arguments.config with
  | .error failure => .error failure
  | .ok loaded => arguments.checked loaded

def Scene.source (scene : Scene File) : Option String → Except Failure String
  | some path => (scene.read path).mapError (.readingSource path)
  | none => (textOf scene.input).mapError .readingInput

def Scene.found (scene : Scene File) (arguments : Arguments) : Except Failure Script :=
  match scene.settings arguments with
  | .error failure => .error failure
  | .ok options =>
      match scene.source arguments.input with
      | .error failure => .error failure
      | .ok text => (Script.compile options text).mapError .compiling

section Findings

variable {scene : Scene File} {arguments : Arguments} {given : Document.Given} {options : Options}
  {script : Script} {failure : Failure}

end Findings

section Stages

variable {host : Host (StateM state)} {scene : state → Scene File}
  (faithful : Faithful host scene) {before middle : Scene File} {arguments : Arguments}
  {options : Options} {script : Script} {failure : Failure}

include faithful

/-- All that emission can do: fail with every file as it was, or show the program where it was
asked for. -/
theorem emit_runs (kept : Kept before middle) :
    Runs scene middle (host.emit arguments script) fun result after =>
      (∃ fault, before.accepts arguments.output = .error fault ∧
        result = .error (.writing fault) ∧ Spared before after arguments (.writing fault)) ∨
      (before.accepts arguments.output = .ok () ∧
        result = .ok () ∧ after.complaints = before.complaints ∧
        Emitted before after arguments.input script arguments.output) := by
  obtain ⟨left, rfl⟩ := kept
  unfold Host.emit
  cases output : arguments.output with
  | none =>
      refine runs_bind (faithful.print _ script.program) ?_
      intro result after prints
      cases prints with
      | cut found contents complaints =>
          refine runs_pure (.inl ⟨_, found, rfl, contents, ?_, complaints⟩)
          intro whole
          exact absurd ⟨output, _, found, rfl⟩ whole
      | whole found shown contents complaints =>
          exact runs_pure (.inr ⟨found, rfl, complaints, .printed shown contents⟩)
  | some path =>
      refine runs_bind (faithful.writeFile _ path _) ?_
      intro result after writes
      cases writes with
      | refused found =>
          have refused : before.accepts (some path) = .error _ := congrArg (Except.map _) found
          exact runs_pure (.inl ⟨_, refused, rfl, rfl, fun _ => rfl, rfl⟩)
      | replaced found holds others printed complained =>
          have accepted : before.accepts (some path) = .ok () := congrArg (Except.map _) found
          exact runs_pure (.inr ⟨accepted, rfl, complained, .written found holds others printed⟩)

theorem emit_done (kept : Kept before middle)
    (accepted : before.accepts arguments.output = .ok ()) :
    Runs scene middle (host.emit arguments script) fun result after =>
      result = .ok () ∧ after.complaints = before.complaints ∧
        Emitted before after arguments.input script arguments.output := by
  intro start seen
  rcases emit_runs faithful kept start seen with ⟨fault, found, _⟩ | ⟨_, done⟩
  · cases accepted.symm.trans found
  · exact done

end Stages

end TurtleLang
