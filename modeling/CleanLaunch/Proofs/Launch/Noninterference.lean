import CleanLaunch.Proofs.Launch.Child

/-! What a launched command cannot learn about its launcher.

    Two launchers may differ in the entries that do not pass and in the descriptors above standard
    error, in number, place and content. As long as the listing works and no close fails, their
    children make the same call and write the same bytes: `spawn_noninterference`. -/

namespace CleanLaunch

open Descriptor (Table)

/-- The standard descriptors are open, a number is free for the listing, the listing works and no
    close fails. -/
structure Launcher.Undisturbed (launcher : Launcher) (kernel : LaunchKernel) : Prop where
  valid : launcher.table.Valid
  standard : ∀ n ≤ 2, n ∈ launcher.table
  free : ∃ n, n < kernel.limit ∧ n ∉ launcher.table
  listing : kernel.toKernel.ListingWorks
  closes : kernel.toKernel.ClosesAll launcher.table

variable {launcher : Launcher} {kernel : LaunchKernel}

theorem mem_standard (n : Nat) : n ∈ Table.standard ↔ n ≤ 2 := by
  have hmem : n ∈ Table.standard ↔ n ∈ [0, 1, 2] := Iff.rfl
  rw [hmem, List.mem_cons, List.mem_cons, List.mem_singleton]
  omega

/-- An undisturbed child cleans up without a word and keeps the standard descriptors only. -/
theorem cleanup_undisturbed (hquiet : launcher.Undisturbed kernel) :
    (Child.cleanup kernel.toKernel launcher.table).lines = [] ∧
      (Child.cleanup kernel.toKernel launcher.table).table = Table.standard := by
  obtain ⟨hlines, hmem⟩ :=
    Child.cleanup_of_works hquiet.listing hquiet.valid hquiet.free hquiet.closes
  refine ⟨hlines, Table.ext_mem fun n => ?_⟩
  rw [hmem, mem_standard]
  exact ⟨fun h => h.2, fun h => ⟨hquiet.standard n h, h⟩⟩

/-- Only the entries that pass have an influence on the environment array. -/
theorem environment_congr {first second : EnvTable} {request : Request}
    (hpassing : (first.entries.filter fun entry => Entry.Passing request.allowlist entry) =
      second.entries.filter fun entry => Entry.Passing request.allowlist entry) :
    Child.environment first request = Child.environment second request := by
  rw [Child.environment_eq, Child.environment_eq, hpassing]

/-- An undisturbed child asks for the shell with the standard descriptors, and writes a line only if
    the call fails. -/
theorem run_undisturbed (hquiet : launcher.Undisturbed kernel) (request : Request) {run : Child.Run}
    (hrun : Child.run kernel.toKernel kernel.execFailure launcher.table launcher.environ request =
      run) :
    run.call = ⟨request.shell, Child.arguments request.command,
        Child.environment launcher.environ request, Table.standard⟩ ∧
      run.lines = (kernel.execFailure run.call).toList.map
        (Child.execFailedLine request.command) := by
  obtain ⟨hlines, htable⟩ := cleanup_undisturbed hquiet
  rw [← hrun]
  refine ⟨?_, ?_⟩
  · rw [Child.run_call, Child.call, htable]
  · rw [Child.run_lines, hlines, List.nil_append]

/-- Two launches of one request by launchers with the same passing entries make the same call, with
    the standard descriptors only and nothing written before it. When both calls fail with the same
    error, the children write the same bytes and exit with the same status. -/
theorem spawn_noninterference (first second : Launcher) (kernel₁ kernel₂ : LaunchKernel)
    (request : Request) {pid₁ pid₂ : Nat}
    (hshell : (0 : UInt8) ∉ request.shell) (hcommand : (0 : UInt8) ∉ request.command)
    (hfork₁ : kernel₁.fork = .ok pid₁) (hfork₂ : kernel₂.fork = .ok pid₂)
    (hfirst : first.Undisturbed kernel₁) (hsecond : second.Undisturbed kernel₂)
    (hpassing : (first.environ.entries.filter fun entry => Entry.Passing request.allowlist entry) =
      second.environ.entries.filter fun entry => Entry.Passing request.allowlist entry) :
    ∃ run₁ run₂, (first.spawn kernel₁ request).fork = .created pid₁ run₁ ∧
      (second.spawn kernel₂ request).fork = .created pid₂ run₂ ∧
      run₁.call = run₂.call ∧ run₁.call.path = request.shell ∧
      run₁.call.arguments = [utf8 "sh", utf8 "-c", request.command] ∧
      run₁.call.descriptors = Table.standard ∧
      (Child.cleanup kernel₁.toKernel first.table).lines = [] ∧
      (Child.cleanup kernel₂.toKernel second.table).lines = [] ∧
      run₁.lines = (kernel₁.execFailure run₁.call).toList.map
        (Child.execFailedLine request.command) ∧
      run₂.lines = (kernel₂.execFailure run₂.call).toList.map
        (Child.execFailedLine request.command) ∧
      ∀ errno, kernel₁.execFailure run₁.call = some errno →
        kernel₂.execFailure run₂.call = some errno →
        run₁.stderr = run₂.stderr ∧ run₁.ending = .exited Child.execFailedStatus ∧
          run₂.ending = .exited Child.execFailedStatus := by
  obtain ⟨hcall₁, hlines₁⟩ := run_undisturbed hfirst request rfl
  obtain ⟨hcall₂, hlines₂⟩ := run_undisturbed hsecond request rfl
  have hsame := environment_congr hpassing
  refine ⟨_, _, fork_spawn hshell hcommand hfork₁, fork_spawn hshell hcommand hfork₂, ?_⟩
  refine ⟨?_, ?_, ?_, ?_, (cleanup_undisturbed hfirst).1, (cleanup_undisturbed hsecond).1,
    hlines₁, hlines₂, fun errno hfail₁ hfail₂ => ⟨?_, ?_, ?_⟩⟩
  · rw [hcall₁, hcall₂, hsame]
  · rw [hcall₁]
  · rw [hcall₁, Child.arguments]
  · rw [hcall₁]
  · rw [Child.Run.stderr, Child.Run.stderr, hlines₁, hlines₂, hfail₁, hfail₂]
  · rw [Child.run_ending, hfail₁]
  · rw [Child.run_ending, hfail₂]

/-- Secrets in other entries, further descriptors, and a listing cut in another way. -/
theorem spawn_noninterference_secrets :
    let request : Request := { command := utf8 "true", allowlist := ⟨[utf8 "A"]⟩ }
    let first : Launcher :=
      ⟨some [utf8 "KEY=s1", utf8 "A=1", utf8 "junk"], Table.ofList [0, 1, 2, 3, 9]⟩
    let second : Launcher := ⟨some [utf8 "A=1", utf8 "TOKEN=s2"], Table.ofList [0, 1, 2, 7]⟩
    let kernel₁ : LaunchKernel := { fork := .ok 3, execFailure := fun _ => some .ENOENT }
    let kernel₂ : LaunchKernel :=
      { listing := { cut := fun _ => 1 }, fork := .ok 8, execFailure := fun _ => some .ENOENT }
    ∃ run₁ run₂, (first.spawn kernel₁ request).fork = .created 3 run₁ ∧
      (second.spawn kernel₂ request).fork = .created 8 run₂ ∧
      run₁.call = run₂.call ∧ run₁.call.path = request.shell ∧
      run₁.call.arguments = [utf8 "sh", utf8 "-c", request.command] ∧
      run₁.call.descriptors = Table.standard ∧
      (Child.cleanup kernel₁.toKernel first.table).lines = [] ∧
      (Child.cleanup kernel₂.toKernel second.table).lines = [] ∧
      run₁.lines = (kernel₁.execFailure run₁.call).toList.map
        (Child.execFailedLine request.command) ∧
      run₂.lines = (kernel₂.execFailure run₂.call).toList.map
        (Child.execFailedLine request.command) ∧
      ∀ errno, kernel₁.execFailure run₁.call = some errno →
        kernel₂.execFailure run₂.call = some errno →
        run₁.stderr = run₂.stderr ∧ run₁.ending = .exited Child.execFailedStatus ∧
          run₂.ending = .exited Child.execFailedStatus :=
  spawn_noninterference _ _ _ _ _ (by decide) (by decide) rfl rfl
    ⟨by decide, by decide, ⟨4, by decide, by decide⟩, ⟨rfl, rfl, rfl⟩, fun _ _ => rfl⟩
    ⟨by decide, by decide, ⟨3, by decide, by decide⟩, ⟨rfl, rfl, rfl⟩, fun _ _ => rfl⟩
    (by decide)

end CleanLaunch
