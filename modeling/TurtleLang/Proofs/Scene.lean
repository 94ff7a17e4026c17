import TurtleLang.Pipeline

/-!
The machine that the program runs on, seen from outside. A machine is a host over any state of
which a scene can be seen: the files, the input, and what was printed. Its calls are asked only
to do what they are for: a file is read whole, a file is written whole or is left as it was,
and no other call touches a file. Nothing is asked of the output when printing fails, so a part
of the text may stand there. What an action does is said of the scene that it starts from and the
scene that it leaves. The values of `World` are such a machine.
-/
namespace TurtleLang

set_option autoImplicit false

/-- What can be seen of a machine. A path leads to a file, and several paths may lead to the
same one. -/
structure Scene (File : Type) where
  /-- The file that a path gives to read. -/
  opens : String → Except FileFault File
  /-- The file that a path gives to write, which need not exist before. -/
  creates : String → Except FileFault File
  contents : File → Option (List UInt8)
  input : List UInt8
  /-- Whether what is printed gets to the output. -/
  prints : Except FileFault Unit
  output : String
  complaints : String

variable {state File : Type}

def Scene.read (scene : Scene File) (path : String) : Except FileFault String :=
  match scene.opens path with
  | .error fault => .error fault
  | .ok file =>
      match scene.contents file with
      | none => .error .notFound
      | some bytes => textOf bytes

/-- Writing a text to a path fails without effect, or gives one file new contents. What the
paths lead to may change with it. -/
inductive Scene.Writes (before : Scene File) (path text : String) :
    Except FileFault Unit → Scene File → Prop
  | refused {fault : FileFault} : before.creates path = .error fault →
      Writes before path text (.error fault) before
  | replaced {file : File} {after : Scene File} : before.creates path = .ok file →
      after.contents file = some (bytesOf text) →
      (∀ other, other ≠ file → after.contents other = before.contents other) →
      after.output = before.output → after.complaints = before.complaints →
        Writes before path text (.ok ()) after

/-- Printing a text shows all of it, or fails with any part of it shown. -/
inductive Scene.Prints (before : Scene File) (text : String) :
    Except FileFault Unit → Scene File → Prop
  | cut {fault : FileFault} {after : Scene File} : before.prints = .error fault →
      after.contents = before.contents → after.complaints = before.complaints →
        Prints before text (.error fault) after
  | whole {after : Scene File} : before.prints = .ok () →
      after.output = before.output ++ text → after.contents = before.contents →
      after.complaints = before.complaints →
        Prints before text (.ok ()) after

/-- Started at a scene, an action ends with a result and a scene as described. -/
def Runs {α : Type} (scene : state → Scene File) (before : Scene File) (action : StateM state α)
    (description : α → Scene File → Prop) : Prop :=
  ∀ start, scene start = before →
    description (action.run start).1 (scene (action.run start).2)

/-- Nothing was done but to read from the input. -/
def Kept (before after : Scene File) : Prop :=
  ∃ left, after = { before with input := left }

structure Faithful (host : Host (StateM state)) (scene : state → Scene File) : Prop where
  readFile : ∀ before path, Runs scene before (host.readFile path) fun result after =>
    result = before.read path ∧ after = before
  readInput : ∀ before, Runs scene before host.readInput fun result after =>
    result = textOf before.input ∧ Kept before after
  writeFile : ∀ before path text, Runs scene before (host.writeFile path text) fun result after =>
    before.Writes path text result after
  print : ∀ before text, Runs scene before (host.print text) fun result after =>
    before.Prints text result after
  complain : ∀ before text, Runs scene before (host.complain text) fun _ after =>
    after = { before with complaints := before.complaints ++ text }
  notify : ∀ before notice, Runs scene before (host.notify notice) fun _ after => after = before

section Rules

variable {α β : Type} {scene : state → Scene File} {before : Scene File}
  {description : α → Scene File → Prop}

theorem runs_pure {value : α} (holds : description value before) :
    Runs scene before (pure value) description := by
  intro start seen
  rw [← seen] at holds
  exact holds

theorem runs_bind {first : StateM state β} {next : β → StateM state α}
    {between : β → Scene File → Prop} (firstRuns : Runs scene before first between)
    (nextRuns : ∀ value middle, between value middle → Runs scene middle (next value) description) :
    Runs scene before (first >>= next) description := by
  intro start seen
  exact nextRuns _ _ (firstRuns start seen) _ rfl

end Rules

theorem kept_self (before : Scene File) : Kept before before :=
  ⟨before.input, rfl⟩

namespace Directory

theorem find_put (directory : Directory) (name : String) (contents : List UInt8)
    (other : String) : (directory.put name contents).find? other =
      if other = name then some contents else directory.find? other := by
  obtain ⟨files⟩ := directory
  simp only [put, find?]
  induction files with
  | nil => grind [place]
  | cons file rest ih =>
      by_cases same : file.1 = name
      · rw [place, if_pos same]
        grind
      · rw [place, if_neg same, List.find?_cons, List.find?_cons]
        split
        · grind
        · exact ih

def opens (directory : Directory) (path : String) : Except FileFault String :=
  match directory.resolve path with
  | .error fault => .error fault
  | .ok (.entry name slashed) =>
      if slashed ∧ (directory.find? name).isSome then .error .notDirectory else .ok name
  | .ok _ => .error .isDirectory

def creates (directory : Directory) (path : String) : Except FileFault String :=
  match directory.resolve path with
  | .error fault => .error fault
  | .ok (.entry name false) => .ok name
  | .ok _ => .error .isDirectory

end Directory

namespace World

def scene (world : World) : Scene String where
  opens := world.directory.opens
  creates := world.directory.creates
  contents := world.directory.find?
  input := world.input
  prints :=
    match world.outputFault with
    | some fault => .error fault
    | none => .ok ()
  output := world.output
  complaints := world.complaints

theorem scene_read (world : World) (path : String) :
    world.scene.read path = world.directory.read path := by
  unfold Scene.read scene Directory.opens Directory.read
  dsimp only
  cases world.directory.resolve path with
  | error fault => rfl
  | ok place =>
      cases place with
      | here => rfl
      | outside => rfl
      | entry name slashed =>
          cases found : world.directory.find? name with
          | none => simp [found]
          | some contents => cases slashed <;> simp [found]

theorem scene_writes (world : World) (path text : String) :
    (∃ fault, world.directory.write path text = .error fault ∧
        world.directory.creates path = .error fault) ∨
      ∃ name, world.directory.write path text = .ok (world.directory.put name (bytesOf text)) ∧
        world.directory.creates path = .ok name := by
  unfold Directory.write Directory.creates
  cases world.directory.resolve path with
  | error fault => exact .inl ⟨fault, rfl, rfl⟩
  | ok place =>
      cases place with
      | here => exact .inl ⟨_, rfl, rfl⟩
      | outside => exact .inl ⟨_, rfl, rfl⟩
      | entry name slashed =>
          cases slashed with
          | false => exact .inr ⟨name, rfl, rfl⟩
          | true => exact .inl ⟨_, rfl, rfl⟩

theorem write_file_run (world : World) (path text : String) :
    (host.writeFile path text).run world =
      match world.directory.write path text with
      | .error fault => (.error fault, world)
      | .ok directory => (.ok (), { world with directory }) := by
  unfold host
  simp only [StateT.run_bind, StateT.run_get, pure_bind]
  cases world.directory.write path text with
  | error fault => rfl
  | ok directory => rfl

theorem print_run (world : World) (text : String) :
    (host.print text).run world =
      match world.outputFault with
      | some fault => (.error fault, world)
      | none => (.ok (), { world with output := world.output ++ text }) := by
  obtain ⟨directory, input, output, outputFault, complaints, notices⟩ := world
  cases outputFault with
  | some fault => rfl
  | none => rfl

/-- Worlds do what a machine is asked to do. -/
theorem faithful : Faithful host scene where
  readFile := by
    rintro _ path world rfl
    exact ⟨(scene_read world path).symm, rfl⟩
  readInput := by
    rintro _ world rfl
    exact ⟨rfl, kept_self _⟩
  writeFile := by
    rintro _ path text world rfl
    rcases scene_writes world path text with ⟨fault, refused, created⟩ | ⟨name, written, created⟩
    · rw [write_file_run, refused]
      exact .refused created
    · rw [write_file_run, written]
      refine .replaced created ?_ ?_ rfl rfl
      · exact (Directory.find_put _ _ _ _).trans (if_pos rfl)
      · intro other different
        exact (Directory.find_put _ _ _ _).trans (if_neg different)
  print := by
    rintro _ text world rfl
    rw [print_run]
    cases faulty : world.outputFault with
    | some fault =>
        have refused : world.scene.prints = .error fault := by simp only [scene, faulty]
        exact .cut refused rfl rfl
    | none =>
        have taken : world.scene.prints = .ok () := by simp only [scene, faulty]
        exact .whole taken rfl rfl rfl
  complain := by
    rintro _ text world rfl
    rfl
  notify := by
    rintro _ notice world rfl
    rfl

end World

end TurtleLang
