/-
# What a session leaves attached

`configure_logging` changes three things one after the other: what the package's logger carries,
its level, and the active configuration.  Between these changes it can fail, at four places.  Here
is what each of them leaves, and from that what any course of calls leaves, failing ones included.

A call that is turned away for its verbosity changes nothing.  One whose stream fails leaves
nothing attached, and one that succeeds leaves its console, its file if it has one, and its
configuration.  What is left over by earlier calls is gone in each of these cases, because what
the logger carries and what configuring has installed never differ (`Holds`).

One exit is different: a call that fails at its file has installed its console by then and leaves
it there, without a configuration (`StrandedWith`).  `run_handlers` says that this is the only way
in which the logger carries a handler without being configured, and that it lasts until the next
call that is not turned away.
-/
import Mathlib
import PartialLeastSquares.Logging.Setup

namespace PartialLeastSquares.Logging

/-! ## 1. What a call asks for -/

namespace Request

variable (r : Request) (disk : String → Option SetupError)

/-- The verbosity that a request is accepted with: a number that is not negative. -/
def verbosity? : Option Number := r.verbose.number?.filter fun n => !n.below 0

/-- Whether a request is turned away before anything is touched. -/
def turnedAway : Bool := r.verbosity?.isNone

/-- The path of the file that is named. -/
def path? : Option String :=
  match r.logFile with
  | .text name => some (plainPath name)
  | _ => none

/-- **Why the file that is named cannot be had:** it is no path, or the disk refuses it. -/
def fileRefusal? : Option SetupError :=
  match r.logFile with
  | .null => none
  | .text name => disk (plainPath name)
  | _ => some .wrongKind

/-- Whether a request gets as far as its file and fails there. -/
def failsAtFile : Bool :=
  !r.turnedAway && (match r.stream with | .opened _ => true | .failing _ => false) &&
    (r.fileRefusal? disk).isSome

/-- The configuration that a request is for. -/
def config : LoggingConfig := ⟨r.verbose, r.useColors, r.path?⟩

end Request

namespace Call

/-- Whether a call is turned away before anything is touched. -/
def turnedAway : Call → Bool
  | .configure r _ => r.turnedAway
  | .reset => false

/-- Whether a call fails at its file. -/
def failsAtFile : Call → Bool
  | .configure r disk => r.failsAtFile disk
  | .reset => false

end Call

/-- **Whether the last call of a course that was not turned away has failed at its file.** -/
def endsAtFile (calls : List Call) : Bool :=
  (calls.filter fun c => !c.turnedAway).getLast?.any Call.failsAtFile

theorem endsAtFile_concat (calls : List Call) (c : Call) :
    endsAtFile (calls ++ [c]) = if c.turnedAway then endsAtFile calls else c.failsAtFile := by
  unfold endsAtFile
  rw [List.filter_append, List.getLast?_append]
  cases h : c.turnedAway <;> simp [h]

/-! ## 2. States -/

/-- The handlers of the file of a configuration. -/
def LoggingConfig.files (config : LoggingConfig) : List Handler :=
  config.logFile.toList.map Handler.file

def Handler.number? : Handler → Option ℕ
  | .console index _ _ => some index
  | _ => none

namespace Setup

/-- **What the package's logger carries besides its silent handler, and its level and
configuration.** What configuring has installed is just that, none of it is silent, and the
consoles in it have been numbered. -/
structure Holds (s : Setup) (own : List Handler) (level : Int) (config : Option LoggingConfig) :
    Prop where
  attached : s.attached = .silent :: own
  installed : s.installed = own
  silent : .silent ∉ own
  numbered : ∀ h ∈ own, ∀ index ∈ h.number?, index < s.consoles.length
  level : s.level = level
  config : s.config = config

/-- **Logging is off:** no handler, no level, no configuration. -/
def Off (s : Setup) : Prop := s.Holds [] 0 none

/-- **Logging is configured:** a console, its file if there is one, and the configuration. -/
def ConfiguredBy (s : Setup) (console : Handler) (config : LoggingConfig) : Prop :=
  s.Holds (console :: config.files) debug (some config)

/-- **Logging is stranded:** a console without a configuration. -/
def StrandedWith (s : Setup) (console : Handler) : Prop := s.Holds [console] debug none

section Steps

variable {s : Setup} {own : List Handler} {level : Int} {config : Option LoggingConfig}

theorem off_initial : initial.Off :=
  ⟨rfl, rfl, List.not_mem_nil, fun _ hmem => absurd hmem List.not_mem_nil, rfl, rfl⟩

/-- Removing one by one what stands behind a handler leaves that handler. -/
theorem foldl_erase {h : Handler} (hnot : h ∉ own) : own.foldl List.erase (h :: own) = [h] := by
  induction own with
  | nil => rfl
  | cons k own ih =>
    have hne : h ≠ k := fun he => hnot (he ▸ List.mem_cons_self)
    rw [List.foldl_cons, List.erase_cons_tail (by simpa using hne), List.erase_cons_head]
    exact ih fun hmem => hnot (List.mem_cons_of_mem k hmem)

/-- **Resetting leaves nothing,** whatever was installed. -/
theorem Holds.reset (hs : s.Holds own level config) : s.reset.Off where
  attached := by
    show s.installed.foldl List.erase s.attached = [.silent]
    rw [hs.installed, hs.attached, foldl_erase hs.silent]
  installed := rfl
  silent := List.not_mem_nil
  numbered _ hmem := absurd hmem List.not_mem_nil
  level := rfl
  config := rfl

theorem Holds.install (hs : s.Holds own level config) {h : Handler} (hne : h ≠ .silent)
    (hnumber : ∀ index ∈ h.number?, index < s.consoles.length) :
    (s.install h).Holds (own ++ [h]) level config where
  attached := by
    show s.attached ++ [h] = _
    rw [hs.attached, List.cons_append]
  installed := congrArg (· ++ [h]) hs.installed
  silent hmem := by
    rcases List.mem_append.mp hmem with hown | hnew
    · exact hs.silent hown
    · exact hne (List.mem_singleton.mp hnew).symm
  numbered k hmem := by
    rcases List.mem_append.mp hmem with hown | hnew
    · exact hs.numbered k hown
    · exact List.mem_singleton.mp hnew ▸ hnumber
  level := hs.level
  config := hs.config

theorem Holds.append (hs : s.Holds own level config) (path text : String) :
    (s.append path text).Holds own level config := by
  unfold Setup.append
  split <;> exact ⟨hs.attached, hs.installed, hs.silent, hs.numbered, hs.level, hs.config⟩

theorem Holds.activate (hs : s.Holds own level config) (new : LoggingConfig) :
    (s.activate new).Holds own level (some new) where
  attached := hs.attached
  installed := hs.installed
  silent := hs.silent
  numbered h hmem index hindex := by
    have hlt := hs.numbered h hmem index hindex
    show index < (s.consoles.dropLast ++ [(true, "")]).length
    rw [List.length_append, List.length_dropLast, List.length_singleton]
    omega
  level := hs.level
  config := rfl

theorem Holds.newConsole_notMem (hs : s.Holds own level config) (verbose : Number)
    (colours : Bool) : s.newConsole verbose colours ∉ s.attached := by
  rw [hs.attached, List.mem_cons]
  rintro (hsilent | hown)
  · exact Handler.noConfusion hsilent
  · exact (hs.numbered _ hown _ rfl).ne rfl

/-- **A console alone is what a configuration begins with.** -/
theorem Off.installConsole (hs : s.Off) (verbose : Number) (colours : Bool) :
    (s.installConsole verbose colours).StrandedWith (s.newConsole verbose colours) := by
  have hlevel :
      Holds { s with level := debug, consoles := s.consoles ++ [(false, "")] } [] debug none :=
    ⟨hs.attached, hs.installed, hs.silent, fun _ hmem => absurd hmem List.not_mem_nil, rfl,
      hs.config⟩
  refine hlevel.install Handler.noConfusion fun index hindex => ?_
  obtain rfl := Option.some.inj hindex
  simp

/-- What installing a file leaves: the file if there is one. -/
def withFile (s : Setup) : Option String → Setup
  | none => s
  | some path => (s.append path "").install (.file path)

theorem Holds.withFile (hs : s.Holds own level config) (path? : Option String) :
    (s.withFile path?).Holds (own ++ path?.toList.map .file) level config := by
  cases path? with
  | none => rwa [Option.toList_none, List.map_nil, List.append_nil]
  | some path =>
    exact (hs.append path "").install Handler.noConfusion
      fun _ hnone => absurd hnone (Option.not_mem_none _)

end Steps

/-! ## 3. How a configuration ends -/

section Configuring

variable {s : Setup} {r : Request} {disk : String → Option SetupError} {verbose : Number}
  {terminal : Bool} {e : SetupError}

theorem installFile_of_refused (s : Setup) (h : r.fileRefusal? disk = some e) :
    s.installFile disk r.logFile = .error e := by
  unfold Request.fileRefusal? at h
  unfold installFile
  cases hfile : r.logFile <;> simp_all

theorem installFile_of_opened (s : Setup) (h : r.fileRefusal? disk = none) :
    s.installFile disk r.logFile = .ok (s.withFile r.path?, r.path?) := by
  unfold Request.fileRefusal? at h
  unfold installFile Request.path?
  cases hfile : r.logFile <;> simp_all [withFile]

/-- A request that is turned away leaves everything as it is. -/
theorem configureOn_of_turnedAway (s : Setup) (disk : String → Option SetupError)
    (h : r.verbosity? = none) : ∃ e, s.configureOn disk r = (s, .error e) := by
  unfold Request.verbosity? at h
  unfold configureOn
  cases hnumber : r.verbose.number? with
  | none => exact ⟨_, rfl⟩
  | some n =>
    have hbelow : n.below 0 = true := by simpa [hnumber] using h
    exact ⟨_, if_pos hbelow⟩

theorem configureOn_of_verbosity (h : r.verbosity? = some verbose) :
    s.configureOn disk r = s.reset.establish disk r verbose := by
  obtain ⟨hnumber, hbelow⟩ := Option.filter_eq_some_iff.mp h
  unfold configureOn
  rw [hnumber]
  exact if_neg (by simpa using hbelow)

theorem configureOn_of_failing (h : r.verbosity? = some verbose) (hstream : r.stream = .failing e) :
    s.configureOn disk r = (s.reset, .error e) := by
  rw [configureOn_of_verbosity h, establish, hstream, Stream.isTerminal]

theorem configureOn_of_refused (h : r.verbosity? = some verbose)
    (hstream : r.stream = .opened terminal) (hfile : r.fileRefusal? disk = some e) :
    s.configureOn disk r =
      (s.reset.installConsole verbose (r.useColors.truthy && terminal), .error e) := by
  rw [configureOn_of_verbosity h, establish, hstream, Stream.isTerminal]
  simp only [installFile_of_refused _ hfile]

theorem configureOn_of_opened (h : r.verbosity? = some verbose)
    (hstream : r.stream = .opened terminal) (hfile : r.fileRefusal? disk = none) :
    s.configureOn disk r =
      (((s.reset.installConsole verbose (r.useColors.truthy && terminal)).withFile
        r.path?).activate r.config, .ok r.config) := by
  rw [configureOn_of_verbosity h, establish, hstream, Stream.isTerminal]
  simp only [installFile_of_opened _ hfile]
  rfl

/-- **How a configuration can end,** with the state that it leaves and its answer.  It is turned
away, and nothing has changed; the stream fails, and nothing is attached; the file cannot be had,
and the new console is attached without a configuration; or the new console is attached, the file
if one is named, and the configuration is in force. -/
inductive Ends (s : Setup) (disk : String → Option SetupError) (r : Request) :
    Setup × Except SetupError LoggingConfig → Prop
  | turnedAway (haway : r.turnedAway = true) (e : SetupError) : Ends s disk r (s, .error e)
  | cleared (haway : r.turnedAway = false) (hfile : r.failsAtFile disk = false) {t : Setup}
      (hoff : t.Off) (e : SetupError) : Ends s disk r (t, .error e)
  | stranded (haway : r.turnedAway = false) (hfile : r.failsAtFile disk = true) {t : Setup}
      {verbose : Number} {colours : Bool} (hconsole : t.StrandedWith (s.newConsole verbose colours))
      (e : SetupError) : Ends s disk r (t, .error e)
  | configured (haway : r.turnedAway = false) (hfile : r.failsAtFile disk = false) {t : Setup}
      {verbose : Number} {colours : Bool}
      (hall : t.ConfiguredBy (s.newConsole verbose colours) r.config)
      (hpath : r.path? = none ↔ r.logFile = .null) : Ends s disk r (t, .ok r.config)

/-- A file that can be had has a path, if one is asked for. -/
theorem path?_eq_none_iff (h : r.fileRefusal? disk = none) :
    r.path? = none ↔ r.logFile = .null := by
  unfold Request.fileRefusal? at h
  unfold Request.path?
  cases hfile : r.logFile <;> simp_all

/-- **A configuration ends in one of these ways,** and how is decided by what it is asked for. -/
theorem configureOn_ends {own : List Handler} {level : Int} {config : Option LoggingConfig}
    (hs : s.Holds own level config) (disk : String → Option SetupError) (r : Request) :
    s.Ends disk r (s.configureOn disk r) := by
  cases hverbosity : r.verbosity? with
  | none =>
    have haway : r.turnedAway = true := by rw [Request.turnedAway, hverbosity]; rfl
    obtain ⟨e, hend⟩ := configureOn_of_turnedAway s disk hverbosity
    exact hend ▸ .turnedAway haway e
  | some verbose =>
    have haway : r.turnedAway = false := by rw [Request.turnedAway, hverbosity]; rfl
    cases hstream : r.stream with
    | failing e =>
      have hfile : r.failsAtFile disk = false := by rw [Request.failsAtFile, haway, hstream]; rfl
      rw [configureOn_of_failing hverbosity hstream]
      exact .cleared haway hfile hs.reset e
    | opened terminal =>
      have hreach : r.failsAtFile disk = (r.fileRefusal? disk).isSome := by
        rw [Request.failsAtFile, haway, hstream]; rfl
      have hconsole :
          Setup.StrandedWith _ (s.newConsole verbose (r.useColors.truthy && terminal)) :=
        hs.reset.installConsole verbose (r.useColors.truthy && terminal)
      cases hrefusal : r.fileRefusal? disk with
      | some e =>
        rw [configureOn_of_refused hverbosity hstream hrefusal]
        exact .stranded haway (by rw [hreach, hrefusal]; rfl) hconsole e
      | none =>
        rw [configureOn_of_opened hverbosity hstream hrefusal]
        exact .configured haway (by rw [hreach, hrefusal]; rfl)
          ((hconsole.withFile r.path?).activate r.config) (path?_eq_none_iff hrefusal)

end Configuring

/-! ## 4. Courses of calls -/

/-- **Logging is off or configured in full.** -/
def Whole (s : Setup) : Prop :=
  s.Off ∨ ∃ index least style config, s.ConfiguredBy (.console index least style) config

/-- **Logging is stranded** with some console. -/
def Stranded (s : Setup) : Prop := ∃ index least style, s.StrandedWith (.console index least style)

theorem exists_holds {s : Setup} (h : s.Whole ∨ s.Stranded) :
    ∃ own level config, s.Holds own level config := by
  rcases h with (hoff | ⟨index, least, style, config, hall⟩) | ⟨index, least, style, hconsole⟩
  · exact ⟨_, _, _, hoff⟩
  · exact ⟨_, _, _, hall⟩
  · exact ⟨_, _, _, hconsole⟩

section Courses

variable {s : Setup} {c : Call} {own : List Handler} {level : Int} {config : Option LoggingConfig}

/-- **What a call leaves:** everything as it is, if it is turned away; a stranded console, if it
fails at its file; and else the whole of something. -/
theorem call_cases (hs : s.Holds own level config) (c : Call) :
    c.turnedAway = true ∧ (s.call c).1 = s ∨
      c.turnedAway = false ∧ (c.failsAtFile = true ∧ (s.call c).1.Stranded ∨
        c.failsAtFile = false ∧ (s.call c).1.Whole) := by
  cases c with
  | reset => exact .inr ⟨rfl, .inr ⟨rfl, .inl hs.reset⟩⟩
  | configure r disk =>
    have hends := configureOn_ends hs disk r
    show r.turnedAway = true ∧ (s.configureOn disk r).1 = s ∨
      r.turnedAway = false ∧ (r.failsAtFile disk = true ∧ (s.configureOn disk r).1.Stranded ∨
        r.failsAtFile disk = false ∧ (s.configureOn disk r).1.Whole)
    generalize s.configureOn disk r = ending at hends ⊢
    cases hends with
    | turnedAway haway e => exact .inl ⟨haway, rfl⟩
    | cleared haway hfile hoff e => exact .inr ⟨haway, .inr ⟨hfile, .inl hoff⟩⟩
    | stranded haway hfile hconsole e => exact .inr ⟨haway, .inl ⟨hfile, _, _, _, hconsole⟩⟩
    | configured haway hfile hall hpath =>
      exact .inr ⟨haway, .inr ⟨hfile, .inr ⟨_, _, _, _, hall⟩⟩⟩

/-- **What any calls leave:** the whole of something, or a stranded console if the last of them
that was not turned away has failed at its file.  The induction is on the course, one call more at
its end. -/
theorem run_cases (calls : List Call) :
    endsAtFile calls = false ∧ (run calls).Whole ∨
      endsAtFile calls = true ∧ (run calls).Stranded := by
  induction calls using List.reverseRecOn with
  | nil => exact .inl ⟨rfl, .inl off_initial⟩
  | append_singleton calls c ih =>
    have hstep : run (calls ++ [c]) = ((run calls).call c).1 := List.foldl_concat ..
    obtain ⟨own, level, config, hs⟩ := exists_holds (ih.imp And.right And.right)
    rw [hstep, endsAtFile_concat]
    rcases call_cases hs c with ⟨haway, hsame⟩ | ⟨haway, ⟨hfile, hend⟩ | ⟨hfile, hend⟩⟩
    · rwa [haway, if_pos rfl, hsame]
    · rw [haway, hfile]
      exact .inr ⟨rfl, hend⟩
    · rw [haway, hfile]
      exact .inl ⟨rfl, hend⟩

/-- What is whole is configured just if a handler is attached that configuring has installed. -/
theorem Whole.isConfigured_iff (h : s.Whole) :
    s.isConfigured = true ↔ ∃ h ∈ s.attached, h ∈ s.installed := by
  rcases h with hoff | ⟨index, least, style, config, hall⟩
  · simp [isConfigured, hoff.config, hoff.installed]
  · simp [isConfigured, hall.config, hall.installed, hall.attached]

theorem Stranded.isConfigured_eq_false (h : s.Stranded) : s.isConfigured = false := by
  obtain ⟨index, least, style, hconsole⟩ := h
  rw [isConfigured, hconsole.config, Option.isSome_none]

end Courses

/-- **What the logger carries after any calls,** those that have failed included.  Logging is
configured exactly when a handler is attached that configuring has installed, unless the last call
that was not turned away has failed at its file.  Unless it has, either nothing of the kind is
attached, or just one console and the file of the active configuration, if it has one.  If it has,
its console is left and nothing else, without a configuration.  Resetting ends all of this.  A
further call to configure ends in one of four ways (`Ends`): all of the new configuration is in
place, with a console that was not there before and nothing else; or it fails, and then everything
is as it was, or nothing is attached, or, if and only if it fails at its file, its console is. -/
theorem run_handlers (calls : List Call) :
    let s := run calls
    (s.isConfigured = true ↔ (∃ h ∈ s.attached, h ∈ s.installed) ∧ endsAtFile calls = false) ∧
    (endsAtFile calls = false ∧ s.Whole ∨ endsAtFile calls = true ∧ s.Stranded) ∧
    s.reset.Off ∧
    (∀ verbose colours, s.newConsole verbose colours ∉ s.attached) ∧
    ∀ disk r, s.Ends disk r (s.configureOn disk r) := by
  intro s
  have hcases := run_cases calls
  obtain ⟨own, level, config, hs⟩ := exists_holds (hcases.imp And.right And.right)
  refine ⟨?_, hcases, hs.reset, hs.newConsole_notMem, configureOn_ends hs⟩
  rcases hcases with ⟨hlast, hwhole⟩ | ⟨hlast, hstranded⟩
  · rw [hwhole.isConfigured_iff, hlast]
    exact ⟨fun h => ⟨h, rfl⟩, fun h => h.1⟩
  · rw [hstranded.isConfigured_eq_false, hlast]
    exact ⟨fun h => absurd h Bool.false_ne_true, fun h => absurd h.2.symm Bool.false_ne_true⟩

/-- A first configuration without a file succeeds; the second names its file by a number, which is
no path.  The console of the second is attached then, and nothing is configured. -/
theorem run_handlers_no_path :
    let calls : List Call :=
      [.configure ⟨.int 1, .bool true, .opened false, .null⟩ fun _ => none,
        .configure ⟨.int 1, .bool true, .opened false, .int 3⟩ fun _ => none]
    endsAtFile calls = true ∧ (run calls).isConfigured = false ∧
      (run calls).attached = [.silent, .console 1 info ⟨false, false⟩] := by
  intro calls
  have hlast : endsAtFile calls = true := rfl
  obtain ⟨hconfigured, -⟩ := run_handlers calls
  refine ⟨hlast, ?_, rfl⟩
  rw [← Bool.not_eq_true, hconfigured, hlast]
  exact fun h => Bool.noConfusion h.2

end Setup

end PartialLeastSquares.Logging
