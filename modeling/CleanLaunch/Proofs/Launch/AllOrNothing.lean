import CleanLaunch.Proofs.Launch.Child

/-! How a launch ends for its caller.

    A launch fails on a NUL byte before anything else happens, then on a child that cannot be
    created, and otherwise it gives the id of its one child: `Launcher.AllOrNothing`. Each of
    these ends has its own record in the log, or none, and there is a child exactly on the last
    of them. It holds of every launch, of one by the default shell too: `launch_allOrNothing`. -/

namespace CleanLaunch

namespace Launcher

theorem nulPosition?_eq_some_iff (request : Request) (position : Nat) :
    nulPosition? request = some position ↔
      FirstNul request.shell position ∨
        (0 : UInt8) ∉ request.shell ∧ FirstNul request.command position := by
  rw [nulPosition?, Option.or_eq_some_iff, nulOffset?_eq_some_iff, nulOffset?_eq_some_iff,
    nulOffset?_eq_none_iff]

variable (launcher : Launcher) {kernel : LaunchKernel} {request : Request}

theorem spawn_of_nul (kernel : LaunchKernel) {position : Nat}
    (hnul : nulPosition? request = some position) : launcher.spawn kernel request =
      ⟨.error (.nul position), [], .notAttempted, launcher, request⟩ := by
  rw [spawn, hnul]

theorem spawn_of_refused (hnul : nulPosition? request = none) {errno : Errno}
    (hfork : kernel.fork = .error errno) : launcher.spawn kernel request =
      ⟨.error (.forkFailed errno), [.forkFailed request.command errno], .refused errno, launcher,
        request⟩ := by
  rw [spawn, hnul, hfork]

theorem spawn_of_created (hnul : nulPosition? request = none) {pid : Nat}
    (hfork : kernel.fork = .ok pid) : launcher.spawn kernel request =
      ⟨.ok pid, [.started pid request.command], .created pid
        (Child.run kernel.toKernel kernel.execFailure launcher.table launcher.environ request),
        launcher, request⟩ := by
  rw [spawn, hnul, hfork]

/-- The three ends of a launch. -/
theorem spawn_cases (kernel : LaunchKernel) (request : Request) :
    (∃ position, nulPosition? request = some position ∧ launcher.spawn kernel request =
        ⟨.error (.nul position), [], .notAttempted, launcher, request⟩) ∨
      (nulPosition? request = none ∧ ∃ errno, kernel.fork = .error errno ∧
        launcher.spawn kernel request = ⟨.error (.forkFailed errno),
          [.forkFailed request.command errno], .refused errno, launcher, request⟩) ∨
      (nulPosition? request = none ∧ ∃ pid run, kernel.fork = .ok pid ∧
        launcher.spawn kernel request =
          ⟨.ok pid, [.started pid request.command], .created pid run, launcher, request⟩) := by
  cases hnul : nulPosition? request with
  | some position => exact Or.inl ⟨position, rfl, spawn_of_nul launcher kernel hnul⟩
  | none =>
    cases hfork : kernel.fork with
    | error errno => exact Or.inr (Or.inl ⟨rfl, errno, rfl, spawn_of_refused launcher hnul hfork⟩)
    | ok pid => exact Or.inr (Or.inr ⟨rfl, pid, _, rfl, spawn_of_created launcher hnul hfork⟩)

variable (kernel request)

theorem spawn_result_eq_nul_iff (position : Nat) :
    (launcher.spawn kernel request).result = .error (.nul position) ↔
      nulPosition? request = some position := by
  rcases spawn_cases launcher kernel request with
    ⟨first, hnul, hspawn⟩ | ⟨hnul, errno, _, hspawn⟩ | ⟨hnul, pid, run, _, hspawn⟩ <;>
    simp [hspawn, hnul]

theorem spawn_result_eq_forkFailed_iff (errno : Errno) :
    (launcher.spawn kernel request).result = .error (.forkFailed errno) ↔
      nulPosition? request = none ∧ kernel.fork = .error errno := by
  rcases spawn_cases launcher kernel request with
    ⟨position, hnul, hspawn⟩ | ⟨hnul, cause, hfork, hspawn⟩ | ⟨hnul, pid, run, hfork, hspawn⟩
  · simp [hspawn, hnul]
  · simp [hspawn, hnul, hfork]
  · simp [hspawn, hnul, hfork]

theorem spawn_result_eq_ok_iff (pid : Nat) :
    (launcher.spawn kernel request).result = .ok pid ↔
      nulPosition? request = none ∧ kernel.fork = .ok pid := by
  rcases spawn_cases launcher kernel request with
    ⟨position, hnul, hspawn⟩ | ⟨hnul, errno, hfork, hspawn⟩ | ⟨hnul, first, run, hfork, hspawn⟩
  · simp [hspawn, hnul]
  · simp [hspawn, hnul, hfork]
  · simp [hspawn, hnul, hfork]

theorem exists_nulPosition?_iff : (∃ position, nulPosition? request = some position) ↔
    (0 : UInt8) ∈ request.shell ∨ (0 : UInt8) ∈ request.command := by
  have hnone := nulPosition?_eq_none_iff request
  rw [← Option.ne_none_iff_exists', ne_eq, hnone, not_and_or, not_not, not_not]

/-- What a launch gives its caller, logs and leaves behind, by its end. -/
structure AllOrNothing (launcher : Launcher) (kernel : LaunchKernel) (request : Request)
    (launch : Launch) : Prop where
  /-- Of several NUL bytes the first one of the shell's path is reported, or else of the command. -/
  nul_iff : ∀ position, launch.result = .error (.nul position) ↔
    FirstNul request.shell position ∨
      (0 : UInt8) ∉ request.shell ∧ FirstNul request.command position
  exists_nul_iff : (∃ position, launch.result = .error (.nul position)) ↔
    (0 : UInt8) ∈ request.shell ∨ (0 : UInt8) ∈ request.command
  nul_silent : ∀ position, launch.result = .error (.nul position) →
    launch.fork = .notAttempted ∧ launch.log = []
  forkFailed_iff : ∀ errno, launch.result = .error (.forkFailed errno) ↔
    (0 : UInt8) ∉ request.shell ∧ (0 : UInt8) ∉ request.command ∧ kernel.fork = .error errno
  forkFailed_logged : ∀ errno, launch.result = .error (.forkFailed errno) →
    launch.fork = .refused errno ∧ ∃ event, launch.log = [event] ∧ event.level = .error ∧
      event.message =
        utf8 "fork failed for command '" ++ request.command ++ utf8 "': " ++ errno.text
  started_iff : ∀ pid, launch.result = .ok pid ↔
    (0 : UInt8) ∉ request.shell ∧ (0 : UInt8) ∉ request.command ∧ kernel.fork = .ok pid
  started_logged : ∀ pid, launch.result = .ok pid →
    ∃ event, launch.log = [event] ∧ event.level = .debug ∧
      event.message = utf8 "started pid " ++ Bytes.decimal pid ++ utf8 ": " ++ request.command
  /-- A child, and the one whose id was returned, exists exactly if the launch succeeded. -/
  child_iff : ∀ pid, (∃ run, launch.fork = .created pid run) ↔ launch.result = .ok pid
  launcher_eq : launch.launcher = launcher
  request_eq : launch.request = request

/-- Every launch ends in one of the three ways, with its record and its child. -/
theorem spawn_allOrNothing :
    AllOrNothing launcher kernel request (launcher.spawn kernel request) where
  nul_iff position := (spawn_result_eq_nul_iff launcher kernel request position).trans
    (nulPosition?_eq_some_iff request position)
  exists_nul_iff := (exists_congr (spawn_result_eq_nul_iff launcher kernel request)).trans
    (exists_nulPosition?_iff request)
  forkFailed_iff errno := by
    rw [spawn_result_eq_forkFailed_iff, nulPosition?_eq_none_iff, and_assoc]
  started_iff pid := by
    rw [spawn_result_eq_ok_iff, nulPosition?_eq_none_iff, and_assoc]
  nul_silent position hresult := by
    rw [spawn_of_nul launcher kernel ((spawn_result_eq_nul_iff _ _ _ _).1 hresult)]
    exact ⟨rfl, rfl⟩
  forkFailed_logged errno hresult := by
    obtain ⟨hnul, hfork⟩ := (spawn_result_eq_forkFailed_iff _ _ _ _).1 hresult
    rw [spawn_of_refused launcher hnul hfork]
    exact ⟨rfl, _, rfl, rfl, rfl⟩
  started_logged pid hresult := by
    obtain ⟨hnul, hfork⟩ := (spawn_result_eq_ok_iff _ _ _ _).1 hresult
    rw [spawn_of_created launcher hnul hfork]
    exact ⟨_, rfl, rfl, rfl⟩
  child_iff pid := by
    rcases spawn_cases launcher kernel request with
      ⟨position, _, hspawn⟩ | ⟨_, errno, _, hspawn⟩ | ⟨_, created, run, _, hspawn⟩ <;>
      rw [hspawn]
    · exact ⟨fun h => (by cases h.choose_spec), fun h => (by cases h)⟩
    · exact ⟨fun h => (by cases h.choose_spec), fun h => (by cases h)⟩
    · refine ⟨?_, fun h => ⟨run, by cases h; rfl⟩⟩
      rintro ⟨other, h⟩
      cases h
      rfl
  launcher_eq := by
    rcases spawn_cases launcher kernel request with
      ⟨position, _, hspawn⟩ | ⟨_, errno, _, hspawn⟩ | ⟨_, pid, run, _, hspawn⟩ <;> rw [hspawn]
  request_eq := by
    rcases spawn_cases launcher kernel request with
      ⟨position, _, hspawn⟩ | ⟨_, errno, _, hspawn⟩ | ⟨_, pid, run, _, hspawn⟩ <;> rw [hspawn]

/-- A launch by a request, and one by a command alone, whose shell has no NUL: either a NUL is
    reported before a child is thought of, or the child cannot be created, or there is one child and
    its id is returned. Launcher and request stay as they were. -/
theorem launch_allOrNothing (command : Bytes) (extra : Option (List Bytes)) :
    AllOrNothing launcher kernel request (launcher.spawn kernel request) ∧
      AllOrNothing launcher kernel { command, extra } (launcher.system kernel command extra) ∧
      (∀ position, ¬FirstNul defaultShell position) ∧
      ∀ position, (launcher.system kernel command extra).result = .error (.nul position) ↔
        FirstNul command position := by
  have hsystem : AllOrNothing launcher kernel { command, extra }
      (launcher.system kernel command extra) :=
    spawn_allOrNothing launcher kernel { command, extra }
  have hshell : (0 : UInt8) ∉ defaultShell := by decide
  have hnever (position : Nat) : ¬FirstNul defaultShell position := fun hfirst =>
    hshell ((exists_firstNul_iff defaultShell).1 ⟨position, hfirst⟩)
  refine ⟨spawn_allOrNothing launcher kernel request, hsystem, hnever, fun position => ?_⟩
  rw [hsystem.nul_iff position, or_iff_right (hnever position), and_iff_right hshell]

end Launcher

end CleanLaunch
